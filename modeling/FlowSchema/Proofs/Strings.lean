import FlowSchema.Options
import FlowSchema.Proofs.Registered

namespace FlowSchema

def FieldDescriptor.strings (f : FieldDescriptor) : List String :=
  f.name?.toList ++ f.extendee?.toList ++ f.typeName?.toList ++ f.defaultValue?.toList
    ++ f.jsonName?.toList

def EnumDescriptor.strings (e : EnumDescriptor) : List String :=
  e.name?.toList ++ e.values.flatMap (·.name?.toList)

namespace MessageDescriptor

mutual

def strings : MessageDescriptor → List String
  | m@{ nested := inner, .. } =>
    m.name?.toList ++ m.fields.flatMap (·.strings) ++ stringsAll inner
      ++ m.enums.flatMap (·.strings) ++ m.extensions.flatMap (·.strings)
      ++ m.oneofs.flatMap (·.name?.toList)

def stringsAll : List MessageDescriptor → List String
  | [] => []
  | m :: ms => m.strings ++ stringsAll ms

end

theorem stringsAll_eq (ms : List MessageDescriptor) : stringsAll ms = ms.flatMap strings := by
  induction ms with
  | nil => rfl
  | cons m ms ih => rw [stringsAll, ih, List.flatMap_cons]

end MessageDescriptor

def FileDescriptor.strings (f : FileDescriptor) : List String :=
  f.name?.toList ++ f.package?.toList ++ f.dependencies ++ MessageDescriptor.stringsAll f.messages
    ++ f.enums.flatMap (·.strings) ++ f.extensions.flatMap (·.strings) ++ f.dialect?.toList

def Options.strings (o : Options) : List String := [o.wellKnownRoot]

variable {P : String → Prop}

theorem getD_of_strings (empty : P "") {s? : Option String} (h : ∀ s ∈ s?.toList, P s) :
    P (s?.getD "") := by
  cases s? with
  | none => exact empty
  | some s => exact h s (by simp)

theorem FieldDescriptor.forall_strings {f : FieldDescriptor} : (∀ s ∈ f.strings, P s) ↔
    (∀ s ∈ f.name?.toList, P s) ∧ (∀ s ∈ f.extendee?.toList, P s) ∧
      (∀ s ∈ f.typeName?.toList, P s) ∧ (∀ s ∈ f.defaultValue?.toList, P s) ∧
      ∀ s ∈ f.jsonName?.toList, P s := by
  simp only [strings, List.forall_mem_append, and_assoc]

theorem EnumDescriptor.forall_strings {e : EnumDescriptor} : (∀ s ∈ e.strings, P s) ↔
    (∀ s ∈ e.name?.toList, P s) ∧ ∀ v ∈ e.values, ∀ s ∈ v.name?.toList, P s := by
  simp only [strings, List.forall_mem_append, List.forall_mem_flatMap]

namespace MessageDescriptor

theorem forall_strings {m : MessageDescriptor} : (∀ s ∈ m.strings, P s) ↔
    (∀ s ∈ m.name?.toList, P s) ∧ (∀ f ∈ m.fields, ∀ s ∈ f.strings, P s) ∧
      (∀ n ∈ m.nested, ∀ s ∈ n.strings, P s) ∧ (∀ e ∈ m.enums, ∀ s ∈ e.strings, P s) ∧
      (∀ f ∈ m.extensions, ∀ s ∈ f.strings, P s) ∧
      ∀ o ∈ m.oneofs, ∀ s ∈ o.name?.toList, P s := by
  cases m
  simp only [strings, stringsAll_eq, List.forall_mem_append, List.forall_mem_flatMap, and_assoc]

theorem forall_strings_of_declared {scope n : QualifiedName} {m k : MessageDescriptor}
    (clean : ∀ s ∈ m.strings, P s) (h : (n, k) ∈ m.declared scope) : ∀ s ∈ k.strings, P s := by
  induction m using nested_induction generalizing scope with
  | step m ih =>
    rw [declared_eq, declaredAll_eq, List.mem_append, List.mem_flatMap, List.mem_singleton] at h
    rcases h with ⟨inner, hinner, h⟩ | h
    · exact ih inner hinner ((forall_strings.mp clean).2.2.1 inner hinner) h
    · cases h
      exact clean

end MessageDescriptor

namespace FileDescriptor

theorem forall_strings {f : FileDescriptor} : (∀ s ∈ f.strings, P s) ↔
    (∀ s ∈ f.name?.toList, P s) ∧ (∀ s ∈ f.package?.toList, P s) ∧ (∀ s ∈ f.dependencies, P s) ∧
      (∀ m ∈ f.messages, ∀ s ∈ m.strings, P s) ∧ (∀ e ∈ f.enums, ∀ s ∈ e.strings, P s) ∧
      (∀ e ∈ f.extensions, ∀ s ∈ e.strings, P s) ∧ ∀ s ∈ f.dialect?.toList, P s := by
  simp only [strings, MessageDescriptor.stringsAll_eq, List.forall_mem_append,
    List.forall_mem_flatMap, and_assoc]

theorem forall_strings_of_declared {f : FileDescriptor} {n : QualifiedName} {m : MessageDescriptor}
    (clean : ∀ s ∈ f.strings, P s) (h : (n, m) ∈ f.declaredMessages) : ∀ s ∈ m.strings, P s := by
  rw [declaredMessages, MessageDescriptor.declaredAll_eq] at h
  obtain ⟨k, hk, h⟩ := List.mem_flatMap.mp h
  have messages := (forall_strings.mp clean).2.2.2.1
  exact MessageDescriptor.forall_strings_of_declared (messages k hk) h

end FileDescriptor

end FlowSchema
