import FlowSchema.Registry
import FlowSchema.Proofs.Nesting
import Mathlib.Data.List.Nodup

namespace FlowSchema

open MessageDescriptor

namespace MessageDescriptor

theorem declaredAll_eq (scope : QualifiedName) (ms : List MessageDescriptor) :
    declaredAll scope ms = ms.flatMap (declared scope) := by
  induction ms with
  | nil => rfl
  | cons m ms ih => rw [declaredAll, ih, List.flatMap_cons]

theorem declared_eq (scope : QualifiedName) (m : MessageDescriptor) :
    m.declared scope = declaredAll (scope.join m.name) m.nested ++ [(scope.join m.name, m)] := by
  cases m
  rw [declared]

theorem mem_declaredAll_nested {scope n : QualifiedName} {ms : List MessageDescriptor}
    {m k : MessageDescriptor} (h : (n, m) ∈ declaredAll scope ms) (hk : k ∈ m.nested) :
    (n.join k.name, k) ∈ declaredAll scope ms := by
  have step (l : MessageDescriptor) : ∀ scope, (n, m) ∈ l.declared scope →
      (n.join k.name, k) ∈ l.declared scope := by
    induction l using nested_induction with
    | step l ih =>
      intro scope hm
      rw [declared_eq, declaredAll_eq, List.mem_append, List.mem_flatMap] at hm ⊢
      rcases hm with ⟨l', hl', hm⟩ | hm
      · exact .inl ⟨l', hl', ih l' hl' _ hm⟩
      · cases List.mem_singleton.mp hm
        refine .inl ⟨k, hk, ?_⟩
        rw [declared_eq]
        exact List.mem_append_right _ (List.mem_singleton_self _)
  rw [declaredAll_eq, List.mem_flatMap] at h ⊢
  obtain ⟨l, hl, h⟩ := h
  exact ⟨l, hl, step l scope h⟩

theorem mem_declaredAll_of_mem {scope : QualifiedName} {ms : List MessageDescriptor}
    {m : MessageDescriptor} (h : m ∈ ms) : (scope.join m.name, m) ∈ declaredAll scope ms := by
  rw [declaredAll_eq, List.mem_flatMap]
  refine ⟨m, h, ?_⟩
  rw [declared_eq]
  exact List.mem_append_right _ (List.mem_singleton_self _)

theorem declaredAll_nested_subset {scope : QualifiedName} {ms : List MessageDescriptor}
    {m : MessageDescriptor} (h : m ∈ ms) :
    declaredAll (scope.join m.name) m.nested ⊆ declaredAll scope ms := by
  intro d hd
  rw [declaredAll_eq scope, List.mem_flatMap]
  refine ⟨m, h, ?_⟩
  rw [declared_eq]
  exact List.mem_append_left _ hd

theorem Visible.declared {ms : List MessageDescriptor} {m : MessageDescriptor} (h : Visible ms m)
    (scope : QualifiedName) : ∃ n, (n, m) ∈ declaredAll scope ms := by
  induction h with
  | @top m mem _ => exact ⟨_, mem_declaredAll_of_mem mem⟩
  | nested _ mem _ ih =>
    obtain ⟨n, hn⟩ := ih
    exact ⟨_, mem_declaredAll_nested hn mem⟩

end MessageDescriptor

theorem FileDescriptor.forall_visible {f : FileDescriptor} {P : MessageDescriptor → Prop}
    (h : ∀ d ∈ f.declaredMessages, P d.2) (m : MessageDescriptor) (hm : Visible f.messages m) :
    P m := by
  obtain ⟨n, hn⟩ := hm.declared f.scope
  exact h (n, m) hn

theorem MessageDescriptor.mapSides?_eq_some {m : MessageDescriptor} {sides : MapSides}
    (h : m.mapSides? = some sides) :
    ∃ key ∈ m.fields, ∃ value ∈ m.fields, sides = ⟨.ofField key, .ofField value⟩ := by
  unfold mapSides? at h
  split at h
  · split at h
    · rename_i key value hkey hvalue
      cases h
      exact ⟨key, List.mem_of_find?_eq_some hkey, value, List.mem_of_find?_eq_some hvalue, rfl⟩
    · cases h
  · cases h

theorem lookup_eq_some_of_mem {α β : Type} [BEq α] [LawfulBEq α] {l : List (α × β)} {a : α} {b : β}
    (keys : (l.map Prod.fst).Nodup) (mem : (a, b) ∈ l) : l.lookup a = some b := by
  obtain ⟨before, after, rfl⟩ := List.append_of_mem mem
  rw [List.map_append, List.nodup_append] at keys
  refine List.lookup_eq_some_iff.mpr ⟨before, after, rfl, fun p hp => ?_⟩
  have hne := keys.2.2 p.1 (List.mem_map_of_mem hp) a (by simp)
  simpa using fun h => hne h.symm

theorem mem_of_lookup_eq_some {α β : Type} [BEq α] [LawfulBEq α] {l : List (α × β)} {a : α} {b : β}
    (h : l.lookup a = some b) : (a, b) ∈ l := by
  obtain ⟨before, after, rfl, -⟩ := List.lookup_eq_some_iff.mp h
  simp

namespace Registry

theorem ofFiles_eq (files : List FileDescriptor) : ofFiles files =
    ⟨(files.flatMap messageEntries).reverse, (files.flatMap enumEntries).reverse⟩ := by
  have h (r : Registry) : files.foldl insert r =
      ⟨(files.flatMap messageEntries).reverse ++ r.messages,
        (files.flatMap enumEntries).reverse ++ r.enums⟩ := by
    induction files generalizing r with
    | nil => rfl
    | cons f files ih => simp [ih, insert]
  rw [ofFiles, h]
  simp [empty]

variable {files : List FileDescriptor} {n : QualifiedName}

theorem message?_ofFiles {e : MessageEntry} (h : (ofFiles files).message? n = some e) :
    ∃ f ∈ files, ∃ m, (n, m) ∈ f.declaredMessages ∧
      e = ⟨f.name, f.package, m.isMapEntry, m.mapSides?⟩ := by
  rw [message?, ofFiles_eq] at h
  have mem := List.mem_reverse.mp (mem_of_lookup_eq_some h)
  obtain ⟨f, hf, mem⟩ := List.mem_flatMap.mp mem
  obtain ⟨⟨k, m⟩, hm, heq⟩ := List.mem_map.mp mem
  cases heq
  exact ⟨f, hf, m, hm, rfl⟩

theorem enum?_ofFiles {e : EnumEntry} (h : (ofFiles files).enum? n = some e) :
    ∃ f ∈ files, ∃ d, (n, d) ∈ f.declaredEnums ∧ e = ⟨f.name, f.package⟩ := by
  rw [enum?, ofFiles_eq] at h
  have mem := List.mem_reverse.mp (mem_of_lookup_eq_some h)
  obtain ⟨f, hf, mem⟩ := List.mem_flatMap.mp mem
  obtain ⟨⟨k, d⟩, hd, heq⟩ := List.mem_map.mp mem
  cases heq
  exact ⟨f, hf, d, hd, rfl⟩

theorem message?_of_declared {f : FileDescriptor} {m : MessageDescriptor}
    (distinct : ((files.flatMap (·.declaredMessages)).map Prod.fst).Nodup)
    (hf : f ∈ files) (hm : (n, m) ∈ f.declaredMessages) :
    (ofFiles files).message? n = some ⟨f.name, f.package, m.isMapEntry, m.mapSides?⟩ := by
  rw [message?, ofFiles_eq]
  apply lookup_eq_some_of_mem
  · rw [List.map_reverse, List.nodup_reverse, List.map_flatMap]
    rw [List.map_flatMap] at distinct
    simpa only [messageEntries, List.map_map, Function.comp_def] using distinct
  · rw [List.mem_reverse]
    exact List.mem_flatMap.mpr ⟨f, hf, List.mem_map.mpr ⟨(n, m), hm, rfl⟩⟩

theorem enum?_of_declared {f : FileDescriptor} {d : EnumDescriptor}
    (distinct : ((files.flatMap (·.declaredEnums)).map Prod.fst).Nodup)
    (hf : f ∈ files) (hd : (n, d) ∈ f.declaredEnums) :
    (ofFiles files).enum? n = some ⟨f.name, f.package⟩ := by
  rw [enum?, ofFiles_eq]
  apply lookup_eq_some_of_mem
  · rw [List.map_reverse, List.nodup_reverse, List.map_flatMap]
    rw [List.map_flatMap] at distinct
    simpa only [enumEntries, List.map_map, Function.comp_def] using distinct
  · rw [List.mem_reverse]
    exact List.mem_flatMap.mpr ⟨f, hf, List.mem_map.mpr ⟨(n, d), hd, rfl⟩⟩

end Registry

end FlowSchema
