import FlowSchema.Proofs.Exports
import FlowSchema.Proofs.WellFormed

namespace FlowSchema

namespace MessageDescriptor

theorem exports_subset_of_declared {k m : MessageDescriptor} {scope n : QualifiedName}
    (h : (n, m) ∈ k.declared scope)
    (entries : ∀ d ∈ k.declared scope, d.2.isMapEntry = true → d.2.nested = [])
    (path : List String) :
    ∃ inner : List String, n = scope.under (inner ++ [m.name]) ∧
      m.exports (path ++ inner) ⊆ k.exports path ∧
      ∀ s ∈ inner, ∃ d ∈ k.declared scope, d.2.name = s := by
  induction k using nested_induction generalizing scope path with
  | step k ih =>
    have self : (scope.join k.name, k) ∈ k.declared scope := by
      rw [declared_eq]
      exact List.mem_append_right _ (List.mem_singleton_self _)
    have inside {l : MessageDescriptor} (hl : l ∈ k.nested) :
        l.declared (scope.join k.name) ⊆ k.declared scope := by
      intro d hd
      rw [declared_eq, declaredAll_eq]
      exact List.mem_append_left _ (List.mem_flatMap.mpr ⟨l, hl, hd⟩)
    have cases := h
    rw [declared_eq, declaredAll_eq, List.mem_append, List.mem_flatMap] at cases
    rcases cases with ⟨l, hl, hm⟩ | hm
    · obtain ⟨inner, hn, exported, names⟩ :=
        ih l hl hm (fun d hd => entries d (inside hl hd)) (path ++ [k.name])
      have plain : k.isMapEntry = false := by
        by_contra hk
        have nil := entries _ self (by simpa using hk)
        rw [nil] at hl
        cases hl
      refine ⟨k.name :: inner, hn, ?_, ?_⟩
      · rw [exports_eq plain, exportsAll_eq]
        rw [List.append_assoc] at exported
        intro x hx
        have hx := List.mem_flatMap.mpr ⟨l, hl, exported hx⟩
        simp only [List.mem_cons, List.mem_append]
        exact .inr (.inl (.inl (.inl hx)))
      · intro s hs
        rcases List.mem_cons.mp hs with rfl | hs
        · exact ⟨_, self, rfl⟩
        · obtain ⟨d, hd, name⟩ := names s hs
          exact ⟨d, inside hl hd, name⟩
    · cases List.mem_singleton.mp hm
      refine ⟨[], rfl, ?_, by simp⟩
      rw [List.append_nil]
      exact List.Subset.refl _

end MessageDescriptor

namespace WellFormed

variable {files : List FileDescriptor} (wf : WellFormed files)
variable {f g : FileDescriptor} {n : QualifiedName}
include wf

theorem exports_subset_of_declared {m : MessageDescriptor} (hg : g ∈ files)
    (h : (n, m) ∈ g.declaredMessages) :
    ∃ inner : List String, n = g.scope.under (inner ++ [m.name]) ∧ m.exports inner ⊆ g.exports ∧
      ∀ s ∈ inner ++ [m.name], '.' ∉ s.toList := by
  have mem := h
  rw [FileDescriptor.declaredMessages, MessageDescriptor.declaredAll_eq] at mem
  obtain ⟨k, hk, hm⟩ := List.mem_flatMap.mp mem
  have declared : k.declared g.scope ⊆ g.declaredMessages := by
    intro d hd
    rw [FileDescriptor.declaredMessages, MessageDescriptor.declaredAll_eq]
    exact List.mem_flatMap.mpr ⟨k, hk, hd⟩
  obtain ⟨inner, hn, exported, names⟩ := MessageDescriptor.exports_subset_of_declared hm
    (fun d hd entry => (wf.entries g hg d (declared hd) entry).1) []
  refine ⟨inner, hn, ?_, ?_⟩
  · intro x hx
    rw [FileDescriptor.exports, MessageDescriptor.exportsAll_eq]
    have hx := List.mem_flatMap.mpr ⟨k, hk, exported hx⟩
    exact List.mem_append_left _ (List.mem_append_left _ hx)
  · intro s hs
    rcases List.mem_append.mp hs with hs | hs
    · obtain ⟨d, hd, rfl⟩ := names s hs
      exact (wf.messageNames g hg d (declared hd)).2
    · obtain rfl := List.mem_singleton.mp hs
      exact (wf.messageNames g hg (n, m) h).2

theorem message_exported {m : MessageDescriptor} (hg : g ∈ files)
    (h : (n, m) ∈ g.declaredMessages) (plain : m.isMapEntry ≠ true) :
    Export.type (n.within g.package) ∈ g.exports := by
  obtain ⟨inner, rfl, exported, dotless⟩ := wf.exports_subset_of_declared hg h
  rw [FileDescriptor.scope,
    QualifiedName.within_under (wf.packages g hg) (by simp) dotless]
  apply exported
  rw [MessageDescriptor.exports_eq (by simpa using plain)]
  exact List.mem_cons_self

theorem enum_exported {e : EnumDescriptor} (hg : g ∈ files) (h : (n, e) ∈ g.declaredEnums) :
    Export.const (n.within g.package) ∈ g.exports := by
  have name := (wf.enumNames g hg (n, e) h).2
  rcases List.mem_append.mp h with h | h
  · obtain ⟨⟨scope, m⟩, hm, h⟩ := List.mem_flatMap.mp h
    obtain ⟨e, he, heq⟩ := List.mem_map.mp h
    cases heq
    obtain ⟨inner, hn, exported, dotless⟩ := wf.exports_subset_of_declared hg hm
    have plain : m.isMapEntry = false := by
      by_contra entry
      have nil := (wf.entries g hg _ hm (by simpa using entry)).2
      rw [nil] at he
      cases he
    have under : scope.join e.name = g.scope.under (inner ++ [m.name] ++ [e.name]) := by
      rw [hn, QualifiedName.under_concat _ _ e.name]
    have dotless' : ∀ s ∈ inner ++ [m.name] ++ [e.name], '.' ∉ s.toList := by
      intro s hs
      rcases List.mem_append.mp hs with hs | hs
      · exact dotless s hs
      · obtain rfl := List.mem_singleton.mp hs
        exact name
    rw [under, FileDescriptor.scope,
      QualifiedName.within_under (wf.packages g hg) (by simp) dotless']
    apply exported
    rw [MessageDescriptor.exports_eq plain]
    simp only [List.mem_cons, List.mem_append]
    exact .inr (.inl (.inl (.inr (List.mem_map_of_mem he))))
  · obtain ⟨e, he, heq⟩ := List.mem_map.mp h
    cases heq
    have within : (g.scope.under [e.name]).within g.package = "_".intercalate [e.name] :=
      QualifiedName.within_under (wf.packages g hg) (by simp) (by simpa using name)
    rw [show g.scope.join e.name = g.scope.under [e.name] from rfl, within]
    exact List.mem_append_right _ (List.mem_map_of_mem he)

end WellFormed

end FlowSchema
