import FlowSchema.Descriptor.Draft
import FlowSchema.Proofs.Registered
import FlowSchema.Proofs.Rendered
import FlowSchema.Proofs.SameLookups

namespace FlowSchema

namespace FileDescriptor

structure Apart (f g : FileDescriptor) : Prop where
  name : f.name ≠ g.name
  messages : ∀ d ∈ f.declaredMessages, ∀ e ∈ g.declaredMessages, d.1 ≠ e.1
  enums : ∀ d ∈ f.declaredEnums, ∀ e ∈ g.declaredEnums, d.1 ≠ e.1

theorem Apart.symm {f g : FileDescriptor} (h : f.Apart g) : g.Apart f where
  name := h.name.symm
  messages d hd e he := (h.messages e he d hd).symm
  enums d hd e he := (h.enums e he d hd).symm

end FileDescriptor

theorem FileDescriptor.eq_of_name_of_apart {files : List FileDescriptor} {f g : FileDescriptor}
    (apart : files.Pairwise Apart) (hf : f ∈ files) (hg : g ∈ files) (h : f.name = g.name) : f = g :=
  List.inj_on_of_nodup_map (List.pairwise_map.mpr (apart.imp fun h => h.name)) hf hg h

theorem lookup_flatMap_reverse {α κ β : Type} [BEq κ] [LawfulBEq κ] {g : α → List (κ × β)}
    {l : List α} {k : κ} {b : β}
    (apart : l.Pairwise fun x y => ∀ u ∈ g x, ∀ v ∈ g y, u.1 ≠ v.1) :
    (l.flatMap g).reverse.lookup k = some b ↔ ∃ x ∈ l, (g x).reverse.lookup k = some b := by
  induction l generalizing b with
  | nil => simp
  | cons x l ih =>
    obtain ⟨first, rest⟩ := List.pairwise_cons.mp apart
    rw [List.flatMap_cons, List.reverse_append, List.lookup_append, Option.or_eq_some_iff, ih rest]
    constructor
    · rintro (⟨y, hy, hk⟩ | ⟨-, hk⟩)
      · exact ⟨y, List.mem_cons_of_mem x hy, hk⟩
      · exact ⟨x, List.mem_cons_self, hk⟩
    · rintro ⟨y, hy, hk⟩
      rcases List.mem_cons.mp hy with rfl | hy
      · refine .inr ⟨?_, hk⟩
        rw [Option.eq_none_iff_forall_ne_some]
        intro c hc
        obtain ⟨z, hz, hc⟩ := (ih rest).mp hc
        have hu := List.mem_reverse.mp (mem_of_lookup_eq_some hk)
        have hv := List.mem_reverse.mp (mem_of_lookup_eq_some hc)
        exact first z hz _ hu _ hv rfl
      · exact .inl ⟨y, hy, hk⟩

namespace Registry

variable {files files' : List FileDescriptor} (apart : files.Pairwise FileDescriptor.Apart)
include apart

theorem message?_ofFiles_of_apart {n : QualifiedName} {e : MessageEntry} :
    (ofFiles files).message? n = some e ↔
      ∃ f ∈ files, (messageEntries f).reverse.lookup n = some e := by
  rw [message?, ofFiles_eq]
  apply lookup_flatMap_reverse
  refine apart.imp fun h u hu v hv => ?_
  obtain ⟨d, hd, rfl⟩ := List.mem_map.mp hu
  obtain ⟨e, he, rfl⟩ := List.mem_map.mp hv
  exact h.messages d hd e he

theorem message?_of_declared_of_apart {f : FileDescriptor} (hf : f ∈ files)
    (distinct : (f.declaredMessages.map Prod.fst).Nodup) {n : QualifiedName} {m : MessageDescriptor}
    (hm : (n, m) ∈ f.declaredMessages) :
    (ofFiles files).message? n = some ⟨f.name, f.package, m.isMapEntry, m.mapSides?⟩ := by
  refine (message?_ofFiles_of_apart apart).mpr ⟨f, hf, lookup_eq_some_of_mem ?_ ?_⟩
  · rw [List.map_reverse, List.nodup_reverse]
    simpa only [messageEntries, List.map_map, Function.comp_def] using distinct
  · rw [List.mem_reverse]
    exact List.mem_map.mpr ⟨(n, m), hm, rfl⟩

theorem enum?_ofFiles_of_apart {n : QualifiedName} {e : EnumEntry} :
    (ofFiles files).enum? n = some e ↔ ∃ f ∈ files, (enumEntries f).reverse.lookup n = some e := by
  rw [enum?, ofFiles_eq]
  apply lookup_flatMap_reverse
  refine apart.imp fun h u hu v hv => ?_
  obtain ⟨d, hd, rfl⟩ := List.mem_map.mp hu
  obtain ⟨e, he, rfl⟩ := List.mem_map.mp hv
  exact h.enums d hd e he

theorem sameLookups_of_perm (perm : files.Perm files') :
    (ofFiles files).SameLookups (ofFiles files') := by
  have apart' := (perm.pairwise_iff FileDescriptor.Apart.symm).mp apart
  constructor
  · intro n
    refine Option.ext fun e => ?_
    simp only [message?_ofFiles_of_apart apart, message?_ofFiles_of_apart apart', perm.mem_iff]
  · intro n
    refine Option.ext fun e => ?_
    simp only [enum?_ofFiles_of_apart apart, enum?_ofFiles_of_apart apart', perm.mem_iff]

end Registry

variable {files files' : List FileDescriptor}

theorem findRev?_eq_some_of_apart (apart : files.Pairwise FileDescriptor.Apart) {name : String}
    {f : FileDescriptor} : files.findRev? (·.name = name) = some f ↔ f ∈ files ∧ f.name = name := by
  constructor
  · intro h
    exact findFile_eq_ok (by rw [findFile, h])
  · rintro ⟨mem, rfl⟩
    cases h : files.findRev? (·.name = f.name) with
    | none =>
      rw [List.findRev?_eq_find?_reverse] at h
      have absent := List.find?_eq_none.mp h f (List.mem_reverse.mpr mem)
      exact absurd (decide_eq_true rfl) absent
    | some g =>
      have found : findFile files f.name = .ok g := by rw [findFile, h]
      obtain ⟨mem', named⟩ := findFile_eq_ok found
      rw [FileDescriptor.eq_of_name_of_apart apart mem' mem named]

theorem findFile_perm (apart : files.Pairwise FileDescriptor.Apart) (perm : files.Perm files')
    (name : String) : findFile files name = findFile files' name := by
  have apart' := (perm.pairwise_iff FileDescriptor.Apart.symm).mp apart
  have same : files.findRev? (·.name = name) = files'.findRev? (·.name = name) := by
    refine Option.ext fun f => ?_
    rw [findRev?_eq_some_of_apart apart, findRev?_eq_some_of_apart apart', perm.mem_iff]
  simp only [findFile, same]

theorem generate_perm (o : Options) {files files' : List FileDescriptor} (requested : List String)
    (apart : files.Pairwise FileDescriptor.Apart) (perm : files.Perm files') :
    (generate o files requested).outcome = (generate o files' requested).outcome := by
  have lookups := Registry.sameLookups_of_perm apart perm
  simp only [generate_outcome, generateFile, findFile_perm apart perm,
    FlowModule.ofFile_congr lookups]

def shelfFile : FileDescriptor where
  name? := some "shelf.proto"
  messages := [{ name? := some "Shelf" }]

def bookFile : FileDescriptor where
  name? := some "book.proto"
  dependencies := ["shelf.proto"]
  messages := [
    { name? := some "Book"
      fields := [(FieldDescriptor.ofType "place" 1 .message).withTypeName ".Shelf"] },
    { name? := some "Book" }]

theorem generate_perm_bookFile : shelfFile.Apart bookFile ∧ ∃ outputs,
    (generate {} [shelfFile, bookFile] ["book.proto"]).outcome = .ok outputs ∧
    (generate {} [bookFile, shelfFile] ["book.proto"]).outcome = .ok outputs := by
  have apart : shelfFile.Apart bookFile := ⟨by decide, by decide +kernel, by decide +kernel⟩
  have files : [shelfFile, bookFile].Pairwise FileDescriptor.Apart := by simpa using apart
  obtain ⟨outputs, h⟩ : ∃ outputs,
      (generate {} [shelfFile, bookFile] ["book.proto"]).outcome = .ok outputs := by
    rw [← failureOf_eq_none]
    decide +kernel
  refine ⟨apart, outputs, h, ?_⟩
  rw [← generate_perm {} ["book.proto"] files (.swap bookFile shelfFile [])]
  exact h

end FlowSchema
