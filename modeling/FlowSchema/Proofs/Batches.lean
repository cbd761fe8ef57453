import FlowSchema.Proofs.Rendered

namespace FlowSchema

theorem generateFile_name {o : Options} {r : Registry} {files : List FileDescriptor}
    {name : String} {out : Output} (h : (generateFile o r files name).outcome = .ok out) :
    out.name = SourcePath.outputName name := by
  obtain ⟨f, m, -, -, rfl⟩ := generateFile_eq_ok h
  rfl

theorem generate_eq_ok {o : Options} {files : List FileDescriptor} {requested : List String}
    {outputs : List Output} : (generate o files requested).outcome = .ok outputs ↔
      List.Forall₂ (fun name out =>
        (generateFile o (Registry.ofFiles files) files name).outcome = .ok out)
        requested outputs := by
  rw [generate_outcome, mapM_eq_ok]

theorem generate_singleton {o : Options} {files : List FileDescriptor} {name : String}
    {out : Output} : (generate o files [name]).outcome = .ok [out] ↔
      (generateFile o (Registry.ofFiles files) files name).outcome = .ok out := by
  rw [generate_eq_ok, List.forall₂_cons]
  exact and_iff_left .nil

theorem generate_append (o : Options) (files : List FileDescriptor) :
    (∀ requested further outputs,
      (generate o files (requested ++ further)).outcome = .ok outputs ↔
        ∃ first second, (generate o files requested).outcome = .ok first ∧
          (generate o files further).outcome = .ok second ∧ outputs = first ++ second) ∧
    (∀ requested further e, (generate o files (requested ++ further)).outcome = .error e ↔
      (generate o files requested).outcome = .error e ∨
        (∃ first, (generate o files requested).outcome = .ok first) ∧
          (generate o files further).outcome = .error e) ∧
    ∀ requested outputs, (generate o files requested).outcome = .ok outputs ↔
      List.Forall₂ (fun name out => out.name = SourcePath.outputName name ∧
        (generate o files [name]).outcome = .ok [out]) requested outputs := by
  refine ⟨fun requested further outputs => ?_, fun requested further e => ?_,
    fun requested outputs => ?_⟩
  · simp only [generate_outcome]
    exact mapM_append_eq_ok
  · simp only [generate_outcome]
    exact mapM_append_eq_error
  · rw [generate_eq_ok]
    constructor
    · intro h
      exact h.imp fun name out hout => ⟨generateFile_name hout, generate_singleton.mpr hout⟩
    · intro h
      exact h.imp fun name out hout => generate_singleton.mp hout.2

end FlowSchema
