import FlowSchema.Imports
import FlowSchema.Proofs.Splitting

namespace FlowSchema.SourcePath

theorem stem_append (path : String) :
    path.toList = stem path ∨ path.toList = stem path ++ ".proto".toList := by
  unfold stem
  cases h : ".proto".toList.isSuffixOf? path.toList with
  | none => exact .inl rfl
  | some s => exact .inr (List.isSuffixOf?_eq_some_iff_append_eq.mp h).symm

theorem mem_of_mem_stem {c : Char} {path : String} (h : c ∈ stem path) : c ∈ path.toList := by
  rcases stem_append path with hp | hp
  · rwa [hp]
  · rw [hp]
    exact List.mem_append_left _ h

theorem outputName_eq_iff {d e : String} : outputName d = outputName e ↔ stem d = stem e := by
  rw [outputName, outputName, ← String.toList_inj]
  simp

theorem isWellKnown_eq (path : String) :
    Import.isWellKnown path = "google/protobuf/".toList.isPrefixOf (stem path) := by
  rw [Import.isWellKnown]
  rcases stem_append path with h | h
  · rw [h]
  · rw [h, Bool.eq_iff_iff, List.isPrefixOf_iff_prefix, List.isPrefixOf_iff_prefix]
    constructor
    · rintro ⟨rest, hrest⟩
      rcases List.append_eq_append_iff.mp hrest with ⟨t, ht, -⟩ | ⟨t, ht, hproto⟩
      · exact ⟨t, ht.symm⟩
      · cases t with
        | nil => exact ⟨[], by rw [List.append_nil, ht, List.append_nil]⟩
        | cons c t =>
          have last : (stem path ++ c :: t).getLast? = some '/' := by
            rw [← ht]
            decide
          rw [List.getLast?_append_of_ne_nil _ (by simp)] at last
          have slash : '/' ∈ ".proto".toList := by
            rw [hproto]
            exact List.mem_append_left _ (List.mem_of_getLast? last)
          exact absurd slash (by decide)
    · exact fun hp => hp.trans (List.prefix_append _ _)

def segments (path : String) : List String := (path.toList.splitOn '/').map String.ofList

theorem intercalate_segments (path : String) : "/".intercalate (segments path) = path :=
  intercalate_splitOn '/' path

theorem segments_intercalate {names : List String} (slashless : ∀ s ∈ names, '/' ∉ s.toList)
    (ne : names ≠ []) : segments ("/".intercalate names) = names := by
  have split : ("/".intercalate names).toList.splitOn '/' = names.map String.toList :=
    splitOn_intercalate slashless ne
  rw [segments, split]
  simp

theorem segments_eq_singleton {s : String} (slashless : '/' ∉ s.toList) : segments s = [s] := by
  rw [segments, List.splitOn_eq_singleton slashless, List.map_singleton, String.ofList_toList]

theorem segments_append_slash (s t : String) :
    segments (s ++ "/" ++ t) = segments s ++ segments t := by
  have split : (s ++ "/" ++ t).toList = s.toList ++ '/' :: t.toList := by simp
  rw [segments, split, List.splitOn_append_cons_self, List.map_append]
  rfl

theorem exists_segments_append (s : String) : ∃ dirs name, ∀ t : String, '/' ∉ t.toList →
    segments (s ++ t) = dirs ++ [name ++ t] := by
  by_cases h : '/' ∈ s.toList
  · obtain ⟨name, dirs, reversed, slashless⟩ := List.eq_append_cons_of_mem (List.mem_reverse.mpr h)
    have split : s = String.ofList dirs.reverse ++ "/" ++ String.ofList name.reverse := by
      rw [← String.toList_inj, ← List.reverse_inj, reversed]
      simp
    refine ⟨segments (String.ofList dirs.reverse), String.ofList name.reverse, fun t ht => ?_⟩
    have last : segments (String.ofList name.reverse ++ t) = [String.ofList name.reverse ++ t] :=
      segments_eq_singleton (by simp [slashless, ht])
    rw [split, String.append_assoc, segments_append_slash, last]
  · exact ⟨[], s, fun t ht => segments_eq_singleton (by simp [h, ht])⟩

theorem length_segments (path : String) : (segments path).length = path.toList.count '/' + 1 := by
  rw [segments, List.length_map]
  induction path.toList with
  | nil => rfl
  | cons c s ih =>
    rw [List.splitOn_cons_eq_if_modifyHead, List.count_cons]
    split <;> simp [ih]

def directory (path : String) : List String := (segments path).dropLast

theorem length_directory (path : String) : (directory path).length = path.toList.count '/' := by
  rw [directory, List.length_dropLast, length_segments, Nat.add_sub_cancel]

theorem directory_outputName (path : String) :
    directory (outputName path) = directory path ∧
      ∃ name, segments (importName path) = directory path ++ [name ++ "_pb"] := by
  obtain ⟨dirs, name, split⟩ := exists_segments_append (String.ofList (stem path))
  have whole : directory path = dirs := by
    have ends {t : String} (ht : '/' ∉ t.toList) (h : path = String.ofList (stem path) ++ t) :
        directory path = dirs := by
      rw [directory, h, split t ht, List.dropLast_concat]
    rcases stem_append path with h | h
    · exact ends (t := "") (by decide) (by simp [← h])
    · exact ends (t := ".proto") (by decide) (by rw [← String.toList_inj]; simpa using h)
  rw [whole]
  constructor
  · rw [directory, outputName, split "_pb.js" (by decide), List.dropLast_concat]
  · exact ⟨name, split "_pb" (by decide)⟩

/-- A step from where the names on the stack lead to, the innermost of them on top. The root has
nothing above it. -/
def step? (stack : List String) (segment : String) : Option (List String) :=
  if segment = "." then some stack
  else if segment = ".." then stack.tail?
  else some (segment :: stack)

def resolve? (file specifier : String) : Option String :=
  ((directory file ++ segments specifier).foldlM step? []).map fun stack =>
    "/".intercalate stack.reverse

theorem foldlM_step?_of_names {names : List String} (h : ∀ s ∈ names, s ≠ "." ∧ s ≠ "..")
    (stack : List String) : names.foldlM step? stack = some (names.reverse ++ stack) := by
  induction names generalizing stack with
  | nil => rfl
  | cons s names ih =>
    obtain ⟨here, up⟩ := h s List.mem_cons_self
    have down : step? stack s = some (s :: stack) := by rw [step?, if_neg here, if_neg up]
    have rest := ih (fun t ht => h t (List.mem_cons_of_mem s ht)) (s :: stack)
    rw [List.foldlM_cons, down, List.reverse_cons, List.append_assoc]
    exact rest

theorem foldlM_step?_replicate (stack : List String) :
    (List.replicate stack.length "..").foldlM step? stack = some [] := by
  induction stack with
  | nil => rfl
  | cons s stack ih => exact ih

theorem segments_join_replicate (n : Nat) (s : String) :
    segments (String.join (List.replicate n "../") ++ s) =
      List.replicate n ".." ++ segments s := by
  induction n with
  | zero => simp
  | succ n ih =>
    have up : String.join (List.replicate (n + 1) "../") ++ s =
        ".." ++ "/" ++ (String.join (List.replicate n "../") ++ s) := by
      rw [List.replicate_succ, String.join_cons, String.append_assoc]
      rfl
    rw [up, segments_append_slash, ih, List.replicate_succ]
    rfl

theorem foldlM_step?_toRoot (path s : String) :
    (segments (toRoot path ++ s)).foldlM step? (directory path).reverse =
      (segments s).foldlM step? [] := by
  have depth := length_directory path
  unfold toRoot
  split
  · rename_i none
    rw [none, List.length_eq_zero_iff] at depth
    have here : "./" ++ s = "." ++ "/" ++ s := rfl
    rw [here, segments_append_slash, depth]
    rfl
  · rw [segments_join_replicate, List.foldlM_append, ← depth, ← List.length_reverse,
      foldlM_step?_replicate]
    rfl

def IsName (s : String) : Prop := s ≠ "" ∧ s ≠ "." ∧ s ≠ ".." ∧ '/' ∉ s.toList

instance (s : String) : Decidable (IsName s) := inferInstanceAs (Decidable (_ ∧ _))

def IsPlain (path : String) : Prop :=
  ∃ names : List String, (∀ s ∈ names, IsName s) ∧ path = "/".intercalate names

theorem IsPlain.directory {path : String} (h : IsPlain path) :
    ∀ s ∈ directory path, s ≠ "." ∧ s ≠ ".." := by
  obtain ⟨names, plain, rfl⟩ := h
  by_cases ne : names = []
  · subst ne
    decide
  · rw [SourcePath.directory, segments_intercalate (fun s hs => (plain s hs).2.2.2) ne]
    intro s hs
    obtain ⟨-, here, up, -⟩ := plain s (names.dropLast_subset hs)
    exact ⟨here, up⟩

theorem specifier_reaches_module (o : Options) {file dependency : String} (hf : IsPlain file)
    (hd : IsPlain dependency) (relative : Import.isWellKnown dependency = false) :
    (Import.ofDependency o file dependency).specifier = toRoot file ++ importName dependency ∧
    ∃ path, resolve? (outputName file) (Import.ofDependency o file dependency).specifier =
        some path ∧
      path ++ ".js" = outputName dependency := by
  have specifier : (Import.ofDependency o file dependency).specifier =
      toRoot file ++ importName dependency := by
    simp [Import.ofDependency, relative]
  obtain ⟨name, segments_import⟩ := (directory_outputName dependency).2
  have names : ∀ s ∈ segments (importName dependency), s ≠ "." ∧ s ≠ ".." := by
    rw [segments_import]
    refine List.forall_mem_append.mpr ⟨hd.directory, List.forall_mem_singleton.mpr ?_⟩
    have long : 2 < (name ++ "_pb").length := by
      rw [String.length_append]
      exact Nat.lt_add_left _ (by decide)
    constructor <;> rintro eq <;> rw [eq] at long <;> exact absurd long (by decide)
  refine ⟨specifier, importName dependency, ?_, ?_⟩
  · rw [specifier, resolve?, (directory_outputName file).1, List.foldlM_append,
      foldlM_step?_of_names hf.directory, List.append_nil]
    have back := foldlM_step?_toRoot file (importName dependency)
    rw [foldlM_step?_of_names names, List.append_nil] at back
    simp [back, intercalate_segments]
  · rw [importName, outputName, String.append_assoc]
    rfl

theorem specifier_reaches_module_suffixOnly :
    IsPlain "shop/v1/order.proto" ∧ IsPlain "common/.proto" ∧
    Import.isWellKnown "common/.proto" = false ∧
    (Import.ofDependency {} "shop/v1/order.proto" "common/.proto").specifier =
      "../../common/_pb" ∧
    resolve? "shop/v1/order_pb.js" "../../common/_pb" = some "common/_pb" := by
  have file : IsPlain "shop/v1/order.proto" := ⟨["shop", "v1", "order.proto"], by decide, rfl⟩
  have dependency : IsPlain "common/.proto" := ⟨["common", ".proto"], by decide, rfl⟩
  have relative : Import.isWellKnown "common/.proto" = false := by decide
  obtain ⟨specifier, path, resolved, output⟩ := specifier_reaches_module {} file dependency relative
  have written : toRoot "shop/v1/order.proto" ++ importName "common/.proto" =
      "../../common/_pb" := by decide
  have here : outputName "shop/v1/order.proto" = "shop/v1/order_pb.js" := by decide
  have there : outputName "common/.proto" = "common/_pb" ++ ".js" := by decide
  rw [there, String.append_left_inj] at output
  rw [specifier, written, here, output] at resolved
  exact ⟨file, dependency, relative, specifier.trans written, resolved⟩

end FlowSchema.SourcePath
