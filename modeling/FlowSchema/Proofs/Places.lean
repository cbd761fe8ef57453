import FlowSchema.Proofs.Enumeration
import FlowSchema.Proofs.Registered

namespace FlowSchema

/-- Whether a place in a forest is come to before another one. What is nested in a message comes
before the message. -/
def Earlier : List Nat → List Nat → Prop
  | [], _ => False
  | _ :: _, [] => True
  | i :: p, j :: q => i < j ∨ i = j ∧ Earlier p q

theorem Earlier.asymm (p q : List Nat) (h : Earlier p q) : ¬Earlier q p := by
  induction p generalizing q with
  | nil => exact absurd h not_false
  | cons i p ih =>
    cases q with
    | nil => exact not_false
    | cons j q =>
      rintro (hji | ⟨rfl, hqp⟩)
      · rcases h with hij | ⟨rfl, -⟩
        · omega
        · omega
      · rcases h with hij | ⟨-, hpq⟩
        · omega
        · exact ih q hpq hqp

theorem lex_asymm {α κ : Type} {R : α → α → Prop} {S : κ → κ → Prop} (hr : ∀ p q, R p q → ¬R q p)
    (hs : ∀ p q, S p q → ¬S q p) (x y : α × κ) (h : Prod.Lex R S x y) : ¬Prod.Lex R S y x := by
  rw [Prod.lex_def] at *
  rintro (hyx | ⟨heq, hyx⟩)
  · rcases h with hxy | ⟨heq, -⟩
    · exact hr _ _ hxy hyx
    · rw [heq] at hyx
      exact hr _ _ hyx hyx
  · rcases h with hxy | ⟨-, hxy⟩
    · rw [heq] at hxy
      exact hr _ _ hxy hxy
    · exact hs _ _ hxy hyx

theorem Enumerates.above {β : Type} {at? : Nat × List Nat → Option β} {l : List β}
    (h : Enumerates (Prod.Lex (· < ·) Earlier) at? l) (b? : Option β) :
    Enumerates Earlier (fun | [] => b? | i :: p => at? (i, p)) (l ++ b?.toList) := by
  obtain ⟨graph, sorted, complete, rfl⟩ := h
  refine ⟨graph.map (fun x => (x.1.1 :: x.1.2, x.2)) ++ b?.toList.map (([], ·)), ?_, ?_, ?_⟩
  · rw [List.pairwise_append, List.pairwise_map]
    refine ⟨sorted.imp fun h => Prod.lex_def.mp h, by cases b? <;> simp, ?_⟩
    rintro _ hx _ hy
    obtain ⟨x, -, rfl⟩ := List.mem_map.mp hx
    obtain ⟨y, -, rfl⟩ := List.mem_map.mp hy
    exact trivial
  · intro p b
    cases p with
    | nil => simp
    | cons i p =>
      rw [← complete (i, p) b]
      simp
  · cases b? <;> simp

namespace MessageDescriptor

def inside? (scope : QualifiedName) (m : MessageDescriptor) :
    List Nat → Option (QualifiedName × MessageDescriptor)
  | [] => some (scope.join m.name, m)
  | i :: place => m.nested[i]?.bind fun k => k.inside? (scope.join m.name) place

def at? (scope : QualifiedName) (ms : List MessageDescriptor) :
    List Nat → Option (QualifiedName × MessageDescriptor)
  | [] => none
  | i :: place => ms[i]?.bind fun m => m.inside? scope place

theorem enumerates_level {scope : QualifiedName} {ms : List MessageDescriptor}
    (h : ∀ m ∈ ms, Enumerates Earlier (m.inside? scope) (m.declared scope)) :
    Enumerates (Prod.Lex (· < ·) Earlier)
      (fun p : Nat × List Nat => ms[p.1]?.bind fun m => m.inside? scope p.2)
      (declaredAll scope ms) := by
  rw [declaredAll_eq]
  exact (Enumerates.list ms).flatMap h

theorem enumerates_declared (scope : QualifiedName) (m : MessageDescriptor) :
    Enumerates Earlier (m.inside? scope) (m.declared scope) := by
  induction m using nested_induction generalizing scope with
  | step m ih =>
    have inner := enumerates_level fun n hn => ih n hn (scope.join m.name)
    rw [declared_eq]
    refine (inner.above (some (scope.join m.name, m))).congr fun place => ?_
    cases place with
    | nil | cons => rfl

theorem enumerates_declaredAll (scope : QualifiedName) (ms : List MessageDescriptor) :
    Enumerates Earlier (at? scope ms) (declaredAll scope ms) := by
  have level := enumerates_level fun m (_ : m ∈ ms) => enumerates_declared scope m
  rw [← List.append_nil (declaredAll scope ms)]
  refine (level.above none).congr fun place => ?_
  cases place with
  | nil | cons => rfl

end MessageDescriptor

namespace FileDescriptor

def messageAt? (f : FileDescriptor) (place : List Nat) : Option (QualifiedName × MessageDescriptor) :=
  MessageDescriptor.at? f.scope f.messages place

def enumsAt? (f : FileDescriptor) : List Nat → Option (QualifiedName × List EnumDescriptor)
  | [] => some (f.scope, f.enums)
  | place => (f.messageAt? place).map fun d => (d.1, d.2.enums)

def enumAt? (f : FileDescriptor) (place : List Nat × Nat) : Option (QualifiedName × EnumDescriptor) :=
  (f.enumsAt? place.1).bind fun s => s.2[place.2]?.map fun e => (s.1.join e.name, e)

theorem enumerates_messages (f : FileDescriptor) :
    Enumerates Earlier f.messageAt? f.declaredMessages :=
  MessageDescriptor.enumerates_declaredAll f.scope f.messages

theorem enumerates_enums (f : FileDescriptor) :
    Enumerates (Prod.Lex Earlier (· < ·)) f.enumAt? f.declaredEnums := by
  have level := MessageDescriptor.enumerates_level fun m (_ : m ∈ f.messages) =>
    MessageDescriptor.enumerates_declared f.scope m
  have scopes : Enumerates Earlier f.enumsAt?
      (f.declaredMessages.map (fun d => (d.1, d.2.enums)) ++ [(f.scope, f.enums)]) := by
    refine ((level.map fun d => (d.1, d.2.enums)).above (some (f.scope, f.enums))).congr
      fun place => ?_
    cases place with
    | nil | cons => rfl
  have all := scopes.flatMap (fun s _ => (Enumerates.list s.2).map fun e => (s.1.join e.name, e))
  rw [List.flatMap_append, List.flatMap_map, List.flatMap_singleton] at all
  exact all

end FileDescriptor

def messageAt? (files : List FileDescriptor) (p : Nat × List Nat) :
    Option (FileDescriptor × QualifiedName × MessageDescriptor) :=
  files[p.1]?.bind fun f => (f.messageAt? p.2).map (f, ·)

def enumAt? (files : List FileDescriptor) (p : Nat × List Nat × Nat) :
    Option (FileDescriptor × QualifiedName × EnumDescriptor) :=
  files[p.1]?.bind fun f => (f.enumAt? p.2).map (f, ·)

def MessageEarlier : Nat × List Nat → Nat × List Nat → Prop := Prod.Lex (· < ·) Earlier

/-- The enums of a message come after those inside the messages nested in it, the enums beside the
messages of a file after all others of the file. -/
def EnumEarlier : Nat × List Nat × Nat → Nat × List Nat × Nat → Prop :=
  Prod.Lex (· < ·) (Prod.Lex Earlier (· < ·))

theorem MessageEarlier.asymm (p q : Nat × List Nat) (h : MessageEarlier p q) :
    ¬MessageEarlier q p :=
  lex_asymm (fun _ _ => Nat.lt_asymm) Earlier.asymm p q h

theorem EnumEarlier.asymm (p q : Nat × List Nat × Nat) (h : EnumEarlier p q) : ¬EnumEarlier q p :=
  lex_asymm (fun _ _ => Nat.lt_asymm) (lex_asymm Earlier.asymm fun _ _ => Nat.lt_asymm) p q h

end FlowSchema
