import FlowSchema.Declarations
import FlowSchema.Proofs.Nesting
import FlowSchema.Proofs.Rendering

namespace FlowSchema

structure TypeUse where
  type : FieldType
  name : QualifiedName
deriving DecidableEq

def TypeUse.ofType (t : FieldType) (typeName : String) : List TypeUse :=
  match t with
  | .message | .group | .enum => [⟨t, .ofTypeName typeName⟩]
  | _ => []

theorem TypeUse.ofType_of_isInteger {t : FieldType} (h : t.isInteger = true) (typeName : String) :
    TypeUse.ofType t typeName = [] := by
  cases t with
  | message | group | enum => cases h
  | _ => rfl

def MapSide.uses (s : MapSide) : List TypeUse := TypeUse.ofType s.type (s.typeName?.getD "")

namespace Registry

def entryOf? (r : Registry) (f : FieldDescriptor) : Option MessageEntry :=
  if f.isRepeated ∧ f.type = .message then
    (r.message? (.ofTypeName f.typeName)).filter (·.isMapEntry)
  else none

theorem entryOf?_eq_some {r : Registry} {f : FieldDescriptor} {e : MessageEntry} :
    r.entryOf? f = some e ↔ f.isRepeated ∧ f.type = .message ∧
      r.message? (.ofTypeName f.typeName) = some e ∧ e.isMapEntry := by
  unfold entryOf?
  split
  · rename_i h
    simp [h.1, h.2, Option.filter_eq_some_iff]
  · rename_i h
    simp only [reduceCtorEq, false_iff]
    rintro ⟨hr, ht, -⟩
    exact h ⟨hr, ht⟩

end Registry

/-- What has to be resolved where a slot is rendered, in order. A field that repeats a map entry
stands for the two sides of the entry. -/
def Slot.uses (r : Registry) : Slot → List TypeUse
  | .field f =>
    match r.entryOf? f with
    | none => TypeUse.ofType f.type f.typeName
    | some e => match e.mapSides? with
      | none => []
      | some sides => sides.key.uses ++ sides.value.uses
  | .extension f => TypeUse.ofType f.type f.typeName

def FileDescriptor.slots (f : FileDescriptor) : List Slot :=
  MessageDescriptor.slotsAll f.messages ++ f.extensions.map .extension

def FileDescriptor.uses (r : Registry) (f : FileDescriptor) : List TypeUse :=
  f.slots.flatMap (Slot.uses r)

namespace FileScope

variable {s : FileScope} {f : FieldDescriptor} {e : MessageEntry}

theorem mapSides?_of_entry (h : s.registry.entryOf? f = some e) :
    s.mapSides? f = match e.mapSides? with
      | some sides => .ok (some sides)
      | none => .error (.malformedMapEntry (QualifiedName.ofTypeName f.typeName).bare) := by
  obtain ⟨hr, ht, hm, he⟩ := Registry.entryOf?_eq_some.mp h
  rw [mapSides?, if_pos (by simp [hr, ht])]
  simp only [messageEntry, hm, ok_bind, he]
  cases e.mapSides? <;> rfl

theorem mapSides?_of_no_entry (h : s.registry.entryOf? f = none) :
    s.mapSides? f = .ok none ∨
      f.type = .message ∧ s.registry.message? (.ofTypeName f.typeName) = none ∧
        s.mapSides? f = .error (.unknownMessage (QualifiedName.ofTypeName f.typeName).bare) := by
  by_cases hf : f.isRepeated ∧ f.type = .message
  · rw [mapSides?, if_pos (by simp [hf.1, hf.2])]
    cases hm : s.registry.message? (.ofTypeName f.typeName) with
    | none =>
      refine .inr ⟨hf.2, rfl, ?_⟩
      simp only [messageEntry, hm]
      rfl
    | some e =>
      have he : e.isMapEntry = false := by
        cases he : e.isMapEntry with
        | false => rfl
        | true =>
          rw [Registry.entryOf?_eq_some.mpr ⟨hf.1, hf.2, hm, he⟩] at h
          cases h
      refine .inl ?_
      simp only [messageEntry, hm, ok_bind, he]
      rfl
  · rw [mapSides?, if_neg (by simpa using hf)]
    exact .inl rfl

theorem mapSides?_eq_some {sides : MapSides} (h : s.mapSides? f = .ok (some sides)) :
    ∃ e, s.registry.entryOf? f = some e ∧ e.mapSides? = some sides := by
  cases he : s.registry.entryOf? f with
  | some e =>
    rw [mapSides?_of_entry he] at h
    cases hs : e.mapSides? with
    | none => simp [hs] at h
    | some sides' =>
      simp only [hs, Except.ok.injEq, Option.some.injEq] at h
      exact ⟨e, rfl, hs.trans (congrArg some h)⟩
  | none =>
    rcases mapSides?_of_no_entry he with hm | ⟨-, -, hm⟩
    · rw [hm] at h
      cases h
    · rw [hm] at h
      cases h

theorem mapSides?_eq_none (h : s.mapSides? f = .ok none) : s.registry.entryOf? f = none := by
  cases he : s.registry.entryOf? f with
  | none => rfl
  | some e =>
    rw [mapSides?_of_entry he] at h
    cases hs : e.mapSides? with
    | none | some sides => simp [hs] at h

end FileScope

end FlowSchema
