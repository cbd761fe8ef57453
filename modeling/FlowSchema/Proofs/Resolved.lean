import FlowSchema.Proofs.Uses

namespace FlowSchema

open Identifier

namespace FileScope

variable {s : FileScope}

inductive Resolves (s : FileScope) (t : FieldType) (typeName : String) : FlowType → Prop
  | message {e : MessageEntry} (kind : t = .message ∨ t = .group)
      (entry : s.registry.message? (.ofTypeName typeName) = some e) :
      Resolves s t typeName (.object (s.reference e.file e.package (.ofTypeName typeName)))
  | enum {e : EnumEntry} (kind : t = .enum)
      (entry : s.registry.enum? (.ofTypeName typeName) = some e) :
      Resolves s t typeName (.valuesOf (s.reference e.file e.package (.ofTypeName typeName)))
  | scalar {type : FlowType} (nameless : TypeUse.ofType t typeName = [])
      (mem : type ∈ [.number, .boolean, .string, .bytes]) : Resolves s t typeName type

theorem resolve_eq_ok {t : FieldType} {typeName? : Option String} {type : FlowType}
    (h : s.resolve t typeName? = .ok type) : s.Resolves t (typeName?.getD "") type := by
  cases t with
  | message | group =>
    simp only [resolve, messageReference, messageEntry, map_eq_ok, bind_eq_ok, pure_eq_ok] at h
    obtain ⟨ref, ⟨e, he, rfl⟩, rfl⟩ := h
    split at he
    · rename_i entry hentry
      cases he
      exact .message (by simp) hentry
    · cases he
  | enum =>
    simp only [resolve, enumReference, enumEntry, map_eq_ok, bind_eq_ok, pure_eq_ok] at h
    obtain ⟨ref, ⟨e, he, rfl⟩, rfl⟩ := h
    split at he
    · rename_i entry hentry
      cases he
      exact .enum rfl hentry
    · cases he
  | _ =>
    cases h
    exact .scalar rfl (by simp)

theorem fieldType_eq_ok {f : FieldDescriptor} {type : FlowType} (h : s.fieldType f = .ok type) :
    s.Resolves f.type f.typeName type := by
  unfold fieldType at h
  split at h
  · rename_i hi _
    cases h
    exact .scalar (TypeUse.ofType_of_isInteger hi _) (by simp)
  · rename_i hi _
    cases h
    exact .scalar (TypeUse.ofType_of_isInteger hi _) (by simp)
  · exact resolve_eq_ok h

theorem property_cases {f : FieldDescriptor} {p : Property} (h : (s.property f).outcome = .ok p) :
    (∃ e sides key value, s.registry.entryOf? f = some e ∧ e.mapSides? = some sides ∧
      s.sideType sides.key = .ok key ∧ s.sideType sides.value = .ok value ∧
      p = ⟨fieldName f.name, false, .array (.pair key value)⟩) ∨
    s.registry.entryOf? f = none ∧ ∃ type, s.fieldType f = .ok type ∧
      p = ⟨fieldName f.name, f.isOptional s.dialect, type.repeatedIf f.isRepeated⟩ := by
  rw [property_outcome] at h
  obtain ⟨sides?, hsides, h⟩ := bind_eq_ok.mp h
  cases sides? with
  | some sides =>
    obtain ⟨e, he, hs⟩ := mapSides?_eq_some hsides
    simp only [bind_eq_ok, pure_eq_ok] at h
    obtain ⟨key, hkey, value, hvalue, rfl⟩ := h
    exact .inl ⟨e, sides, key, value, he, hs, hkey, hvalue, rfl⟩
  | none =>
    simp only [bind_eq_ok, pure_eq_ok] at h
    obtain ⟨type, htype, rfl⟩ := h
    exact .inr ⟨mapSides?_eq_none hsides, type, htype, rfl⟩

theorem property_eq_ok {f : FieldDescriptor} {p : Property} (h : (s.property f).outcome = .ok p) :
    (∃ e sides key value, s.registry.entryOf? f = some e ∧ e.mapSides? = some sides ∧
      s.Resolves sides.key.type (sides.key.typeName?.getD "") key ∧
      s.Resolves sides.value.type (sides.value.typeName?.getD "") value ∧
      p = ⟨fieldName f.name, false, .array (.pair key value)⟩) ∨
    s.registry.entryOf? f = none ∧ ∃ type, s.Resolves f.type f.typeName type ∧
      p = ⟨fieldName f.name, f.isOptional s.dialect, type.repeatedIf f.isRepeated⟩ := by
  rcases property_cases h with ⟨e, sides, key, value, he, hs, hk, hv, rfl⟩ | ⟨he, type, ht, rfl⟩
  · exact .inl ⟨e, sides, key, value, he, hs, resolve_eq_ok hk, resolve_eq_ok hv, rfl⟩
  · exact .inr ⟨he, type, fieldType_eq_ok ht, rfl⟩

theorem property_key {f : FieldDescriptor} {p : Property} (h : (s.property f).outcome = .ok p) :
    p.key = fieldName f.name := by
  rcases property_cases h with ⟨e, sides, key, value, -, -, -, -, parts⟩ | ⟨-, type, -, parts⟩
  · rw [parts]
  · rw [parts]

theorem extension_eq_ok {outer : String} {f : FieldDescriptor} {d : Declaration}
    (h : (s.extension outer f).outcome = .ok d) :
    ∃ type, s.Resolves f.type f.typeName type ∧ d = .object (nested outer (fieldName f.name))
      [⟨"fieldNumber", false, .numberLiteral f.number⟩,
        ⟨"extendee", false, .textLiteral (QualifiedName.ofTypeName f.extendee).bare⟩,
        ⟨"value", f.isOptional s.dialect, type.repeatedIf f.isRepeated⟩] := by
  rw [extension_outcome] at h
  obtain ⟨type, htype, h⟩ := bind_eq_ok.mp h
  exact ⟨type, fieldType_eq_ok htype, (pure_eq_ok.mp h).symm⟩

end FileScope

end FlowSchema
