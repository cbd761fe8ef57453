import FlowSchema.Answer
import FlowSchema.Proofs.Batches

namespace FlowSchema

variable {α β : Type}

theorem Record.level_eq_error_iff {r : Record} : r.level = "ERROR" ↔ ∃ e, r = .failure e := by
  cases r with
  | failure e => exact ⟨fun _ => ⟨e, rfl⟩, fun _ => rfl⟩
  | _ => simp [level]

namespace Traced

def Quiet (x : Traced α) : Prop := ∀ e, .failure e ∉ x.log

theorem Quiet.level_ne {x : Traced α} (h : x.Quiet) : ∀ r ∈ x.log, r.level ≠ "ERROR" := by
  intro r hr error
  obtain ⟨e, rfl⟩ := Record.level_eq_error_iff.mp error
  exact h e hr

theorem quiet_pure (a : α) : (pure a : Traced α).Quiet := by
  intro e he
  cases he

theorem quiet_lift (x : Except Failure α) : (liftM x : Traced α).Quiet := by
  intro e he
  cases he

theorem quiet_record {r : Record} (h : ∀ e, r ≠ .failure e) : (record r).Quiet := by
  intro e he
  exact h e (List.mem_singleton.mp he).symm

theorem quiet_bind {x : Traced α} {f : α → Traced β} (hx : x.Quiet) (hf : ∀ a, (f a).Quiet) :
    (x >>= f).Quiet := by
  intro e he
  cases h : x.outcome with
  | error e' =>
    rw [bind_of_error h] at he
    exact hx e he
  | ok a =>
    rw [bind_of_ok h] at he
    rcases List.mem_append.mp he with he | he
    · exact hx e he
    · exact hf a e he

theorem quiet_mapM {f : α → Traced β} {as : List α} (h : ∀ a ∈ as, (f a).Quiet) :
    (as.mapM f).Quiet := by
  induction as with
  | nil => exact quiet_pure []
  | cons a as ih =>
    rw [List.mapM_cons]
    have rest := ih fun b hb => h b (List.mem_cons_of_mem a hb)
    apply quiet_bind (h a List.mem_cons_self)
    intro b
    apply quiet_bind rest
    intro bs
    exact quiet_pure (b :: bs)

end Traced

open Traced

theorem EnumDescriptor.quiet_declaration (outer : String) (e : EnumDescriptor) :
    (e.declaration outer).Quiet :=
  quiet_bind (quiet_record (by simp)) fun _ => quiet_pure _

theorem OneofDescriptor.quiet_declarations (outer : String) (o : OneofDescriptor)
    (members : List FieldDescriptor) : (o.declarations outer members).Quiet := by
  unfold declarations
  split
  · exact quiet_pure []
  · exact quiet_bind (quiet_record (by simp)) fun _ => quiet_pure _

theorem MessageDescriptor.quiet_oneofDeclarations (outer : String) (m : MessageDescriptor) :
    (m.oneofDeclarations outer).Quiet :=
  quiet_bind (quiet_mapM fun _ _ => OneofDescriptor.quiet_declarations outer _ _)
    fun _ => quiet_pure _

namespace FileScope

variable (s : FileScope)

theorem quiet_property (f : FieldDescriptor) : (s.property f).Quiet := by
  have plain : (s.plainProperty f).Quiet :=
    quiet_bind (quiet_lift _) fun _ => quiet_bind (quiet_record (by simp)) fun _ =>
      quiet_pure _
  have map (sides : MapSides) : (s.mapProperty f sides).Quiet :=
    quiet_bind (quiet_lift _) fun _ => quiet_bind (quiet_lift _) fun _ =>
      quiet_bind (quiet_record (by simp)) fun _ => quiet_pure _
  apply quiet_bind (quiet_lift _)
  intro sides?
  cases sides? with
  | none => exact plain
  | some sides => exact map sides

theorem quiet_extension (outer : String) (f : FieldDescriptor) : (s.extension outer f).Quiet :=
  quiet_bind (quiet_record (by simp)) fun _ =>
    quiet_bind (quiet_lift _) fun _ => quiet_pure _

theorem quiet_messagesDeclarations {outer : String} {ms : List MessageDescriptor}
    (h : ∀ m ∈ ms, (s.messageDeclarations outer m).Quiet) :
    (s.messagesDeclarations outer ms).Quiet := by
  rw [messagesDeclarations_eq, ← bind_pure_comp]
  apply quiet_bind (quiet_mapM h)
  intro parts
  exact quiet_pure parts.flatten

theorem quiet_messageDeclarations (outer : String) (m : MessageDescriptor) :
    (s.messageDeclarations outer m).Quiet := by
  induction m using MessageDescriptor.nested_induction generalizing outer with
  | step m ih =>
    rw [messageDeclarations_eq]
    apply quiet_bind (quiet_record (by simp))
    intro _
    split
    · exact quiet_pure []
    · have inner := s.quiet_messagesDeclarations fun n hn =>
        ih n hn (Identifier.nested outer m.name)
      apply quiet_bind (quiet_mapM fun f _ => s.quiet_property f)
      intro properties
      apply quiet_bind inner
      intro messages
      apply quiet_bind (quiet_mapM fun e _ => e.quiet_declaration _)
      intro enums
      apply quiet_bind (m.quiet_oneofDeclarations _)
      intro tables
      apply quiet_bind (quiet_mapM fun f _ => s.quiet_extension _ f)
      intro extensions
      exact quiet_pure _

theorem quiet_fileDeclarations (f : FileDescriptor) : (s.fileDeclarations f).Quiet := by
  apply quiet_bind (s.quiet_messagesDeclarations fun m _ => s.quiet_messageDeclarations "" m)
  intro messages
  apply quiet_bind (quiet_mapM fun e _ => s.quiet_extension "" e)
  intro extensions
  apply quiet_bind (quiet_mapM fun e _ => e.quiet_declaration "")
  intro enums
  exact quiet_pure _

end FileScope

theorem FlowModule.quiet_ofFile (o : Options) (r : Registry) (f : FileDescriptor) :
    (FlowModule.ofFile o r f).Quiet := by
  apply quiet_bind (quiet_lift _)
  intro dialect
  apply quiet_bind (quiet_record (by simp))
  intro _
  apply quiet_bind (quiet_lift _)
  intro imports
  apply quiet_bind (FileScope.quiet_fileDeclarations _ f)
  intro declarations
  exact quiet_pure _

theorem Registry.quiet_addAll (r : Registry) (files : List FileDescriptor) :
    (r.addAll files).Quiet := by
  induction files generalizing r with
  | nil => exact quiet_pure r
  | cons f files ih =>
    rw [addAll, List.foldlM_cons]
    have add : (r.add f).Quiet :=
      quiet_bind (quiet_record (by simp)) fun _ => quiet_pure _
    exact quiet_bind add ih

theorem quiet_generateFile (o : Options) (r : Registry) (files : List FileDescriptor)
    (name : String) : (generateFile o r files name).Quiet := by
  apply quiet_bind (quiet_lift _)
  intro f
  apply quiet_bind (FlowModule.quiet_ofFile o r f)
  intro m
  exact quiet_pure _

theorem quiet_generate (o : Options) (files : List FileDescriptor) (requested : List String) :
    (generate o files requested).Quiet := by
  apply quiet_bind (Registry.quiet_addAll _ files)
  intro r
  exact quiet_mapM fun name _ => quiet_generateFile o r files name

theorem answer_of_ok {o : Options} {q : Request} {outputs : List Output}
    (h : (generate o q.files q.requested).outcome = .ok outputs) :
    answer o q = ⟨(generate o q.files q.requested).log,
      { supportedFeatures? := some 1, files := outputs.map Output.file }⟩ := by
  simp only [answer, h]
  rfl

theorem answer_of_error {o : Options} {q : Request} {e : Failure}
    (h : (generate o q.files q.requested).outcome = .error e) :
    answer o q = ⟨(generate o q.files q.requested).log ++ [.failure e],
      { error? := some e.message, supportedFeatures? := some 1 }⟩ := by
  simp only [answer, h]
  rfl

theorem answer_whole_or_refused (o : Options) (q : Request) :
    (answer o q).response.supportedFeatures? = some 1 ∧
    ((∃ outputs, (generate o q.files q.requested).outcome = .ok outputs ∧
        (answer o q).response.error? = none ∧
        (answer o q).response.files = outputs.map (fun out =>
          { name? := some out.name, insertionPoint? := none, content? := some out.content }) ∧
        List.Forall₂ (fun name out => out.name = SourcePath.outputName name ∧
          (generate o q.files [name]).outcome = .ok [out]) q.requested outputs ∧
        ∀ r ∈ (answer o q).log, r.level ≠ "ERROR") ∨
      ∃ e, (generate o q.files q.requested).outcome = .error e ∧
        (answer o q).response.error? = some e.message ∧ (answer o q).response.files = [] ∧
        ∃ before last, (answer o q).log = before ++ [last] ∧ last.level = "ERROR" ∧
          last.text = e.message ∧ ∀ r ∈ before, r.level ≠ "ERROR") ∧
    ((∃ r ∈ (answer o q).log, r.level = "ERROR") ↔ (answer o q).response.error? ≠ none) ∧
    ∀ parameter? compilerVersion?, answer o
      { q with parameter? := parameter?, compilerVersion? := compilerVersion? } = answer o q := by
  have quiet := (quiet_generate o q.files q.requested).level_ne
  have unread (parameter? : Option String) (compilerVersion? : Option Version) : answer o
      { q with parameter? := parameter?, compilerVersion? := compilerVersion? } = answer o q := rfl
  cases h : (generate o q.files q.requested).outcome with
  | ok outputs =>
    have each := (generate_eq_ok.mp h).imp fun name out hout =>
      And.intro (generateFile_name hout) (generate_singleton.mpr hout)
    rw [answer_of_ok h] at unread ⊢
    refine ⟨rfl, .inl ⟨outputs, rfl, rfl, rfl, each, quiet⟩, ?_, unread⟩
    constructor
    · rintro ⟨r, hr, error⟩
      exact absurd error (quiet r hr)
    · intro failed
      exact absurd rfl failed
  | error e =>
    have last : Record.level (.failure e) = "ERROR" := rfl
    rw [answer_of_error h] at unread ⊢
    refine ⟨rfl, .inr ⟨e, rfl, rfl, rfl, _, _, rfl, last, rfl, quiet⟩, ?_, unread⟩
    constructor
    · intro _
      exact Option.some_ne_none _
    · intro _
      exact ⟨.failure e, by simp, last⟩

end FlowSchema
