import FlowSchema.Proofs.ExportLines
import FlowSchema.Proofs.LocalNames

namespace FlowSchema

open Export (pathName)
open MessageDescriptor (Visible)

theorem MessageDescriptor.eq_pathName_of_mem_exports {m : MessageDescriptor} {path : List String}
    {x : String} (hx : x ∈ (m.exports path).map Export.name) :
    m.isMapEntry = false ∧ ∃ rest, x = pathName (path ++ m.name :: rest) ∧
      ∀ path, pathName (path ++ m.name :: rest) ∈ (m.exports path).map Export.name := by
  induction m using nested_induction generalizing path with
  | step m ih =>
    cases h : m.isMapEntry with
    | true =>
      rw [exports_of_isMapEntry h] at hx
      cases hx
    | false =>
      refine ⟨rfl, ?_⟩
      simp only [exports_names h, ExportScope.names, List.mem_cons, List.mem_append,
        List.mem_flatMap, List.mem_map] at hx ⊢
      rcases hx with rfl | ⟨n, hn, hx⟩ | ⟨s, hs, rfl⟩
      · exact ⟨[], rfl, fun _ => .inl rfl⟩
      · obtain ⟨-, rest, rfl, moved⟩ := ih n hn (List.mem_map.mpr hx)
        refine ⟨n.name :: rest, by simp, fun path => .inr (.inl ⟨n, hn, ?_⟩)⟩
        simpa using moved (path ++ [m.name])
      · exact ⟨[s], by simp, fun path => .inr (.inr ⟨s, hs, by simp⟩)⟩

namespace ExportScope

variable {path : List String} {s : ExportScope}

def LeadsOn (s : ExportScope) (a : String) (rest : List String) : Prop :=
  rest ≠ [] → ∃ m ∈ s.messages, m.isMapEntry = false ∧ m.name = a ∧
    pathName (a :: rest) ∈ m.exportScope.names [a]

theorem leadsOn_of_mem_exports {m : MessageDescriptor} {rest : List String} (hm : m ∈ s.messages)
    (plain : m.isMapEntry = false)
    (h : pathName (m.name :: rest) ∈ (m.exports []).map Export.name) :
    s.LeadsOn m.name rest := by
  intro ne
  refine ⟨m, hm, plain, rfl, ?_⟩
  rw [MessageDescriptor.exports_names plain, List.mem_cons] at h
  rcases h with h | h
  · cases rest with
    | nil => exact absurd rfl ne
    | cons t rest => exact absurd h (Export.pathName_append_ne t rest (List.cons_ne_nil _ []))
  · exact h

theorem Separate.eq_of_pathName_eq (separate : s.Separate) {a b : String} {p q : List String}
    (ha : a ∈ s.localNames) (hb : b ∈ s.localNames) (hp : s.LeadsOn a p) (hq : s.LeadsOn b q)
    (h : pathName (path ++ a :: p) = pathName (path ++ b :: q)) : a = b := by
  have apart {a b : String} {p q : List String} (hb : b ∈ s.localNames) (hp : s.LeadsOn a p)
      (ne : p ≠ []) (inside : Export.StartsInside a b)
      (heq : pathName (a :: p) = pathName (b :: q)) : False := by
    obtain ⟨m, hm, plain, rfl, mem⟩ := hp ne
    obtain ⟨other, outside⟩ := separate m hm plain b hb inside _ mem
    rw [heq] at other outside
    cases q with
    | nil => exact other String.intercalate_singleton
    | cons t q => exact outside (Export.startsInside_pathName b (List.cons_ne_nil t q))
  have heq := Export.pathName_append_inj.mp h
  rcases Export.startsInside_of_pathName_eq heq with rfl | ⟨ne, inside⟩ | ⟨ne, inside⟩
  · rfl
  · exact (apart hb hp ne inside heq).elim
  · exact (apart ha hq ne inside heq.symm).elim

theorem sublist_messages (path : List String) (ms : List MessageDescriptor) :
    ((ms.filter (!·.isMapEntry)).map fun m => pathName (path ++ [m.name])).Sublist
      (ms.flatMap fun m => (m.exports path).map Export.name) := by
  induction ms with
  | nil => exact .slnil
  | cons m ms ih =>
    rw [List.flatMap_cons]
    cases h : m.isMapEntry with
    | true => simpa [h, MessageDescriptor.exports_of_isMapEntry h] using ih
    | false =>
      have inner := (List.nil_sublist (m.exportScope.names (path ++ [m.name]))).append ih
      rw [MessageDescriptor.exports_names h]
      simpa [h] using inner

theorem sublist_names (path : List String) (s : ExportScope) :
    (s.localNames.map fun x => pathName (path ++ [x])).Sublist (s.names path) := by
  rw [localNames, List.map_append, messageNames, List.map_map]
  exact (sublist_messages path s.messages).append (List.Sublist.refl _)

theorem eq_pathName_of_mem_names {x : String} (hx : x ∈ s.names path) :
    ∃ a rest, x = pathName (path ++ a :: rest) := by
  rcases List.mem_append.mp hx with hx | hx
  · obtain ⟨m, -, hx⟩ := List.mem_flatMap.mp hx
    obtain ⟨-, rest, rfl, -⟩ := MessageDescriptor.eq_pathName_of_mem_exports hx
    exact ⟨m.name, rest, rfl⟩
  · obtain ⟨a, -, rfl⟩ := List.mem_map.mp hx
    exact ⟨a, [], rfl⟩

theorem nodup_exports_iff {m : MessageDescriptor} (plain : m.isMapEntry = false) :
    ((m.exports path).map Export.name).Nodup ↔
      (m.exportScope.names (path ++ [m.name])).Nodup := by
  rw [MessageDescriptor.exports_names plain, List.nodup_cons]
  refine and_iff_right fun mem => ?_
  obtain ⟨a, rest, h⟩ := eq_pathName_of_mem_names mem
  exact Export.pathName_append_ne a rest (by simp) h.symm

theorem nodup_messages (separate : s.Separate) (distinct : s.messageNames.Nodup)
    (inner : ∀ m ∈ s.messages, m.isMapEntry = false →
      (m.exportScope.names (path ++ [m.name])).Nodup) :
    (s.messages.flatMap fun m => (m.exports path).map Export.name).Nodup := by
  rw [List.nodup_flatMap]
  constructor
  · intro m hm
    cases plain : m.isMapEntry with
    | true =>
      rw [m.exports_of_isMapEntry plain]
      exact List.nodup_nil
    | false =>
      exact (nodup_exports_iff plain).mpr (inner m hm plain)
  · rw [messageNames, List.Nodup, List.pairwise_map, List.pairwise_filter] at distinct
    refine distinct.imp_of_mem fun {m n} hm hn ne x hxm hxn => ?_
    obtain ⟨plain, p, rfl, moved⟩ := MessageDescriptor.eq_pathName_of_mem_exports hxm
    obtain ⟨plain', q, h, moved'⟩ := MessageDescriptor.eq_pathName_of_mem_exports hxn
    refine ne (by simp [plain]) (by simp [plain']) (separate.eq_of_pathName_eq ?_ ?_ ?_ ?_ h)
    · exact List.mem_append_left _ (mem_messageNames hm plain)
    · exact List.mem_append_left _ (mem_messageNames hn plain')
    · exact leadsOn_of_mem_exports hm plain (moved [])
    · exact leadsOn_of_mem_exports hn plain' (moved' [])

theorem nodup_names_iff (separate : s.Separate) : (s.names path).Nodup ↔
    s.localNames.Nodup ∧ ∀ m ∈ s.messages, m.isMapEntry = false →
      (m.exportScope.names (path ++ [m.name])).Nodup := by
  constructor
  · intro h
    refine ⟨(h.sublist (sublist_names path s)).of_map _, fun m hm plain => ?_⟩
    have one := (List.nodup_flatMap.mp (List.nodup_append.mp h).1).1 m hm
    exact (nodup_exports_iff plain).mp one
  · rintro ⟨distinct, inner⟩
    obtain ⟨messages, others, apart⟩ := List.nodup_append.mp distinct
    refine List.nodup_append.mpr ⟨nodup_messages separate messages inner,
      others.map fun a b => Export.pathName_snoc_inj, ?_⟩
    rintro _ hx _ hy rfl
    obtain ⟨m, hm, hx⟩ := List.mem_flatMap.mp hx
    obtain ⟨b, hb, hy⟩ := List.mem_map.mp hy
    obtain ⟨plain, p, rfl, moved⟩ := MessageDescriptor.eq_pathName_of_mem_exports hx
    have named := mem_messageNames hm plain
    refine apart m.name named b hb (separate.eq_of_pathName_eq (List.mem_append_left _ named)
      (List.mem_append_right _ hb) (leadsOn_of_mem_exports hm plain (moved [])) ?_ hy.symm)
    exact absurd rfl

theorem nodup_names_iff_of_inner (separate : ∀ t, s.Holds t → t.Separate)
    (inner : ∀ m ∈ s.messages, ∀ path, (∀ t, m.exportScope.Holds t → t.Separate) →
      ((m.exportScope.names path).Nodup ↔ ∀ t, m.exportScope.Holds t → t.localNames.Nodup)) :
    (s.names path).Nodup ↔ ∀ t, s.Holds t → t.localNames.Nodup := by
  rw [nodup_names_iff (separate s .self)]
  have below (m : MessageDescriptor) (hm : m ∈ s.messages) (plain : m.isMapEntry = false) :=
    inner m hm (path ++ [m.name]) fun t ht => separate t (ht.inner hm plain)
  constructor
  · rintro ⟨distinct, nested⟩ t ht
    rcases holds_iff.mp ht with rfl | ⟨m, hm, plain, ht⟩
    · exact distinct
    · exact (below m hm plain).mp (nested m hm plain) t ht
  · intro h
    exact ⟨h s .self, fun m hm plain =>
      (below m hm plain).mpr fun t ht => h t (ht.inner hm plain)⟩

theorem nodup_names_iff_holds (separate : ∀ t, s.Holds t → t.Separate) :
    (s.names path).Nodup ↔ ∀ t, s.Holds t → t.localNames.Nodup := by
  refine nodup_names_iff_of_inner separate fun m hm path separate => ?_
  clear hm
  induction m using MessageDescriptor.nested_induction generalizing path with
  | step m ih => exact nodup_names_iff_of_inner separate fun n hn path sep => ih n hn path sep

end ExportScope

theorem FileDescriptor.forall_holds {f : FileDescriptor} {P : ExportScope → Prop}
    (top : P f.exportScope) (inner : ∀ d ∈ f.declaredMessages, P d.2.exportScope) :
    ∀ s, f.exportScope.Holds s → P s := by
  rintro s (_ | visible)
  · exact top
  · exact f.forall_visible (P := fun m => P m.exportScope) inner _ visible

open Text

theorem exportLines_of_generateFile {o : Options} {files : List FileDescriptor} {f : FileDescriptor}
    {out : Output} (ho : ∀ s ∈ o.strings, Unbroken s)
    (clean : ∀ g ∈ files, ∀ s ∈ g.strings, Unbroken s) (hf : findFile files f.name = .ok f)
    (named : ∀ m, Visible f.messages m → m.name ≠ "")
    (h : (generateFile o (Registry.ofFiles files) files f.name).outcome = .ok out) :
    (lines out.content).filter (startsWith "export ") =
      f.exports.map (Export.line o.exactObjects) := by
  obtain ⟨g, m, hg, hm, rfl⟩ := generateFile_eq_ok h
  obtain rfl := Except.ok.inj (hf.symm.trans hg)
  obtain ⟨mem, -⟩ := findFile_eq_ok hf
  exact FlowModule.exportLines_render hm (Registry.isUnbroken_ofFiles clean) ho (clean f mem) named

/-- The names that the lines of a generated file export are distinct if and only if every scope
tells its own names apart, as long as no declaration is named like one inside a message beside it. -/
theorem exportLines_names_nodup (o : Options) (files : List FileDescriptor) (f : FileDescriptor)
    (out : Output) (ho : ∀ s ∈ o.strings, Unbroken s)
    (clean : ∀ g ∈ files, ∀ s ∈ g.strings, Unbroken s) (hf : findFile files f.name = .ok f)
    (named : ∀ m, Visible f.messages m → m.name ≠ "")
    (separate : ∀ s, f.exportScope.Holds s → s.Separate)
    (h : (generateFile o (Registry.ofFiles files) files f.name).outcome = .ok out) :
    ∃ xs : List Export,
      (lines out.content).filter (startsWith "export ") = xs.map (Export.line o.exactObjects) ∧
      ((xs.map Export.name).Nodup ↔ ∀ s, f.exportScope.Holds s → s.localNames.Nodup) := by
  refine ⟨f.exports, exportLines_of_generateFile ho clean hf named h, ?_⟩
  rw [f.exports_names]
  exact ExportScope.nodup_names_iff_holds separate

theorem exportLines_nodup_of_unjoined {o : Options} {files : List FileDescriptor}
    {f : FileDescriptor} {out : Output} (ho : ∀ s ∈ o.strings, Unbroken s)
    (clean : ∀ g ∈ files, ∀ s ∈ g.strings, Unbroken s) (hf : findFile files f.name = .ok f)
    (named : ∀ m, Visible f.messages m → m.name ≠ "")
    (unjoined : ∀ s, f.exportScope.Holds s → s.Unjoined)
    (h : (generateFile o (Registry.ofFiles files) files f.name).outcome = .ok out) :
    (lines out.content).filter (startsWith "export ") =
        f.exports.map (Export.line o.exactObjects) ∧
      ((f.exports.map Export.name).Nodup ↔ ∀ s, f.exportScope.Holds s → s.localNames.Nodup) := by
  refine ⟨exportLines_of_generateFile ho clean hf named h, ?_⟩
  rw [f.exports_names]
  exact ExportScope.nodup_names_iff_holds fun s hs => (unjoined s hs).separate

def parcelFile : FileDescriptor where
  name? := some "shop/parcel.proto"
  package? := some "shop"
  messages := [
    { name? := some "Parcel"
      nested := [{ name? := some "Label", enums := [{ name? := some "Size" }] }]
      oneofs := [{ name? := some "sent_by" }]
      extensions := [{ name? := some "gift_note", type? := some 9 }] },
    { name? := some "Parcel_v2", nested := [{ name? := some "Label" }] }]
  extensions := [{ name? := some "parcel_label", type? := some 9 }]

theorem exportLines_names_nodup_parcelFile : ∃ out,
    (generateFile {} (Registry.ofFiles [parcelFile]) [parcelFile] parcelFile.name).outcome =
      .ok out ∧
    ∃ xs : List Export,
      (lines out.content).filter (startsWith "export ") = xs.map (Export.line false) ∧
      (xs.map Export.name).Nodup := by
  obtain ⟨out, h⟩ : ∃ out, (generateFile {} (Registry.ofFiles [parcelFile]) [parcelFile]
      parcelFile.name).outcome = .ok out := by
    rw [← failureOf_eq_none]
    decide +kernel
  have named := parcelFile.forall_visible (P := fun m => m.name ≠ "") (by decide +kernel)
  have separate := FileDescriptor.forall_holds (f := parcelFile) (P := ExportScope.Separate)
    (by decide +kernel) (by decide +kernel)
  obtain ⟨xs, hxs, distinct⟩ := exportLines_names_nodup {} [parcelFile] parcelFile out (by decide)
    (by decide) rfl named separate h
  refine ⟨out, h, xs, hxs, distinct.mpr ?_⟩
  exact FileDescriptor.forall_holds (by decide +kernel) (by decide +kernel)

def FileDescriptor.symbols (f : FileDescriptor) : List QualifiedName :=
  f.declaredMessages.flatMap (fun (n, m) =>
      n :: ((m.fields ++ m.extensions).map (n.join ·.name) ++ m.oneofs.map (n.join ·.name)))
    ++ f.declaredEnums.map Prod.fst ++ f.extensions.map (f.scope.join ·.name)

def ExportsTwice (o : Options) (f : FileDescriptor) : Prop :=
  f.symbols.Nodup ∧ ∃ out,
    (generateFile o (Registry.ofFiles [f]) [f] f.name).outcome = .ok out ∧
    ∃ xs : List Export,
      (lines out.content).filter (startsWith "export ") = xs.map (Export.line o.exactObjects) ∧
      ¬(xs.map Export.name).Nodup

theorem exportsTwice_of_exports {o : Options} {f : FileDescriptor}
    (distinct : f.symbols.Nodup) (ho : ∀ s ∈ o.strings, Unbroken s)
    (clean : ∀ s ∈ f.strings, Unbroken s) (named : ∀ d ∈ f.declaredMessages, d.2.name ≠ "")
    (twice : ¬(f.exports.map Export.name).Nodup)
    (h : failureOf (generateFile o (Registry.ofFiles [f]) [f] f.name).outcome = none) :
    ExportsTwice o f := by
  obtain ⟨out, hout⟩ := failureOf_eq_none.mp h
  refine ⟨distinct, out, hout, f.exports, ?_, twice⟩
  obtain ⟨g, m, hg, hm, rfl⟩ := generateFile_eq_ok hout
  have found : findFile [f] f.name = .ok f := by simp [findFile]
  obtain rfl := Except.ok.inj (found.symm.trans hg)
  have unbroken : (Registry.ofFiles [f]).IsUnbroken :=
    Registry.isUnbroken_ofFiles (by simpa using clean)
  dsimp only
  exact FlowModule.exportLines_render hm unbroken ho clean (f.forall_visible named)

theorem exportsTwice_of_lines {o : Options} {f : FileDescriptor} (xs : List Export)
    (distinct : f.symbols.Nodup) (twice : ¬(xs.map Export.name).Nodup)
    (h : (generateFile o (Registry.ofFiles [f]) [f] f.name).outcome.toOption.map
      (fun out => (lines out.content).filter (startsWith "export ")) =
        some (xs.map (Export.line o.exactObjects))) : ExportsTwice o f := by
  obtain ⟨out, hout, hlines⟩ := Option.map_eq_some_iff.mp h
  refine ⟨distinct, out, ?_, xs, hlines, twice⟩
  cases ho : (generateFile o (Registry.ofFiles [f]) [f] f.name).outcome with
  | error e => simp [ho, Except.toOption] at hout
  | ok out' => simpa [ho, Except.toOption] using hout

def joinedFile : FileDescriptor where
  messages := [
    { name? := some "Outer", nested := [{ name? := some "Inner" }] },
    { name? := some "Outer_Inner" }]

def noteFile : FileDescriptor where
  messages := [{ name? := some "giftNote" }]
  extensions := [{ name? := some "gift_note", type? := some 9 }]

def kindFile : FileDescriptor where
  messages := [{
    name? := some "Gift"
    nested := [{ name? := some "KindCase" }]
    oneofs := [{ name? := some "kind" }] }]

def unnamedFile : FileDescriptor where
  messages := [{ nested := [{ name? := some "Gift" }] }, { name? := some "Gift" }]

def brokenFile : FileDescriptor where
  package? := some "shop\nexport type Gift = \x7b"
  messages := [{ name? := some "Gift" }]

def rootedFile : FileDescriptor where
  dependencies := ["google/protobuf/any.proto"]
  messages := [{ name? := some "Gift" }]

def brokenRoot : Options where
  wellKnownRoot := "root\nexport type Gift = \x7b\n"

theorem exportsTwice_of_distinct_symbols :
    ExportsTwice {} joinedFile ∧ ExportsTwice {} noteFile ∧ ExportsTwice {} kindFile ∧
      ExportsTwice {} unnamedFile ∧ ExportsTwice {} brokenFile ∧ ExportsTwice brokenRoot rootedFile := by
  refine ⟨?_, ?_, ?_, ?_, ?_, ?_⟩
  · exact exportsTwice_of_exports (by decide +kernel) (by decide) (by decide +kernel)
      (by decide +kernel) (by decide +kernel) (by decide +kernel)
  · exact exportsTwice_of_exports (by decide +kernel) (by decide) (by decide +kernel)
      (by decide +kernel) (by decide +kernel) (by decide +kernel)
  · exact exportsTwice_of_exports (by decide +kernel) (by decide) (by decide +kernel)
      (by decide +kernel) (by decide +kernel) (by decide +kernel)
  · exact exportsTwice_of_lines [.type "", .type "Gift", .type "Gift"]
      (by decide +kernel) (by decide) (by decide +kernel)
  · exact exportsTwice_of_lines [.type "Gift", .type "Gift"]
      (by decide +kernel) (by decide) (by decide +kernel)
  · exact exportsTwice_of_lines [.type "Gift", .type "Gift"]
      (by decide +kernel) (by decide) (by decide +kernel)

end FlowSchema
