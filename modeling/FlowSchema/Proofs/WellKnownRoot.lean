import FlowSchema.Proofs.LastOption
import FlowSchema.Proofs.SourcePaths

namespace FlowSchema

theorem SourcePath.importName_eq_of_isWellKnown {path : String}
    (h : Import.isWellKnown path = true) : ∃ rest, importName path = "google/protobuf/" ++ rest := by
  rw [isWellKnown_eq, List.isPrefixOf_iff_prefix] at h
  obtain ⟨name, split⟩ := h
  refine ⟨String.ofList name ++ "_pb", ?_⟩
  rw [importName, ← split, ← String.append_assoc, String.append_left_inj, ← String.toList_inj]
  simp

namespace Options

theorem isStripped_empty {s : String} : IsStripped s "" ↔ ∀ c ∈ s.toList, c = '/' := by
  simp [IsStripped, List.eq_replicate_iff]

theorem LastWins.exists_root {base o : Options} {texts : List String} (h : LastWins base texts o)
    (changed : o.wellKnownRoot ≠ base.wellKnownRoot) :
    ∃ root, Latest (fun root => (Setting.wellKnownRoot root).Written) texts (some root) ∧
      IsStripped root o.wellKnownRoot := by
  obtain ⟨root?, latest, meaning⟩ := h.wellKnownRoot
  cases root? with
  | none => exact absurd meaning changed
  | some root => exact ⟨root, latest, meaning⟩

theorem LastWins.isStripped {base o : Options} {texts : List String} {root : String}
    (h : LastWins base texts o)
    (latest : Latest (fun root => (Setting.wellKnownRoot root).Written) texts (some root)) :
    IsStripped root o.wellKnownRoot := by
  obtain ⟨root?, latest', meaning⟩ := h.wellKnownRoot
  rw [latest_iff Setting.rootOf?_eq_some_iff] at latest latest'
  rw [← latest', latest] at meaning
  exact meaning

theorem wellKnownRoot_of_parse {p : String} {o : Options} (h : parse p = .ok o) :
    o.wellKnownRoot.toList.getLast? ≠ some '/' ∧
    (o.wellKnownRoot = "" ↔ ∃ root,
      Latest (fun root => (Setting.wellKnownRoot root).Written) (pieces p) (some root) ∧
        ∀ c ∈ root.toList, c = '/') ∧
    ∀ file dependency, Import.isWellKnown dependency = true →
      ∃ rest, SourcePath.importName dependency = "google/protobuf/" ++ rest ∧
        (Import.ofDependency o file dependency).specifier =
          o.wellKnownRoot ++ "/" ++ SourcePath.importName dependency ∧
        ((Import.ofDependency o file dependency).specifier = "/google/protobuf/" ++ rest ↔
          o.wellKnownRoot = "") := by
  have wins := (parse_eq_ok.mp h).2
  refine ⟨?_, ?_, fun file dependency known => ?_⟩
  · by_cases given : o.wellKnownRoot = "google-protobuf"
    · rw [given]
      decide
    · obtain ⟨root, -, stripped⟩ := wins.exists_root given
      exact stripped.2
  · constructor
    · intro empty
      obtain ⟨root, latest, stripped⟩ := wins.exists_root (by rw [empty]; decide)
      rw [empty, isStripped_empty] at stripped
      exact ⟨root, latest, stripped⟩
    · rintro ⟨root, latest, slashes⟩
      have stripped := isStripped_iff.mp (wins.isStripped latest)
      rw [← stripped]
      exact isStripped_iff.mp (isStripped_empty.mpr slashes)
  · obtain ⟨rest, name⟩ := SourcePath.importName_eq_of_isWellKnown known
    have specifier : (Import.ofDependency o file dependency).specifier =
        o.wellKnownRoot ++ "/" ++ SourcePath.importName dependency := by
      simp [Import.ofDependency, known]
    have bare : "/google/protobuf/" ++ rest = "" ++ "/" ++ SourcePath.importName dependency := by
      rw [name, ← String.append_assoc]
      rfl
    refine ⟨rest, name, specifier, ?_⟩
    rw [specifier, bare, String.append_left_inj, String.append_left_inj]

theorem wellKnownRoot_of_parse_slash :
    parse "well_known_root=/" = .ok ⟨false, ""⟩ ∧
    Import.isWellKnown "google/protobuf/timestamp.proto" = true ∧
    (Import.ofDependency ⟨false, ""⟩ "order.proto" "google/protobuf/timestamp.proto").specifier =
      "/google/protobuf/timestamp_pb" := by
  have parsed : parse "well_known_root=/" = .ok ⟨false, ""⟩ := by rfl
  have known : Import.isWellKnown "google/protobuf/timestamp.proto" = true := by decide
  have name : SourcePath.importName "google/protobuf/timestamp.proto" =
      "google/protobuf/timestamp_pb" := by decide
  obtain ⟨-, -, imports⟩ := wellKnownRoot_of_parse parsed
  obtain ⟨-, -, specifier, -⟩ := imports "order.proto" "google/protobuf/timestamp.proto" known
  rw [name] at specifier
  exact ⟨parsed, known, specifier⟩

end Options

end FlowSchema
