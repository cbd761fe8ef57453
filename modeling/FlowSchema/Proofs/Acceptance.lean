import FlowSchema.Proofs.Faults

namespace FlowSchema

open MessageDescriptor (Visible)

namespace Registry

variable (r : Registry)

def Declares (t : FieldType) (typeName : String) : Prop :=
  (t = .message ∨ t = .group → ∃ e, r.message? (.ofTypeName typeName) = some e) ∧
    (t = .enum → ∃ e, r.enum? (.ofTypeName typeName) = some e)

def Repeats (f : FieldDescriptor) (e : MessageEntry) : Prop :=
  f.label = .repeated ∧ f.type = .message ∧
    r.message? (.ofTypeName f.typeName) = some e ∧ e.isMapEntry = true

def AcceptsField (f : FieldDescriptor) : Prop :=
  (∀ e, r.Repeats f e → ∃ sides, e.mapSides? = some sides ∧
    r.Declares sides.key.type (sides.key.typeName?.getD "") ∧
    r.Declares sides.value.type (sides.value.typeName?.getD "")) ∧
  ((∀ e, ¬r.Repeats f e) → r.Declares f.type f.typeName)

structure Accepts (f : FileDescriptor) : Prop where
  dialect : f.dialect? = none ∨ f.dialect? = some "" ∨ f.dialect? = some "proto2" ∨
    f.dialect? = some "proto3" ∨ f.dialect? = some "editions"
  aliases : (f.dependencies.map SourcePath.moduleAlias).Nodup
  fields : ∀ m, Visible f.messages m → ∀ g ∈ m.fields, r.AcceptsField g
  extensions : ∀ g, (g ∈ f.extensions ∨ ∃ m, Visible f.messages m ∧ g ∈ m.extensions) →
    r.Declares g.type g.typeName

variable {r}

theorem faults_ofType_eq_nil {t : FieldType} {typeName : String} :
    (TypeUse.ofType t typeName).filterMap (TypeUse.fault? r) = [] ↔ r.Declares t typeName := by
  cases t <;> simp [TypeUse.ofType, TypeUse.fault?, Declares, Option.isSome_iff_exists]

theorem entryOf?_eq_some_iff {f : FieldDescriptor} {e : MessageEntry} :
    r.entryOf? f = some e ↔ r.Repeats f e := by
  rw [entryOf?_eq_some, Repeats, FieldDescriptor.isRepeated, decide_eq_true_iff]

theorem faults_field_eq_nil {f : FieldDescriptor} :
    (Slot.field f).faults r = [] ↔ r.AcceptsField f := by
  unfold AcceptsField
  simp only [← entryOf?_eq_some_iff]
  cases h : r.entryOf? f with
  | none =>
    simp [Slot.faults, Slot.malformed, Slot.uses, h, faults_ofType_eq_nil,
      -List.filterMap_eq_nil_iff]
  | some e =>
    obtain ⟨file, package, isMapEntry, sides?⟩ := e
    cases sides? with
    | none => simp [Slot.faults, Slot.malformed, h]
    | some sides =>
      simp [Slot.faults, Slot.malformed, Slot.uses, h, MapSide.uses, faults_ofType_eq_nil,
        List.filterMap_append, -List.filterMap_eq_nil_iff]

theorem faults_extension_eq_nil {f : FieldDescriptor} :
    (Slot.extension f).faults r = [] ↔ r.Declares f.type f.typeName := faults_ofType_eq_nil

end Registry

namespace FileDescriptor

variable {f : FileDescriptor}

theorem dialectFaults_eq_nil : f.dialectFaults = [] ↔ f.dialect? = none ∨ f.dialect? = some "" ∨
    f.dialect? = some "proto2" ∨ f.dialect? = some "proto3" ∨ f.dialect? = some "editions" := by
  unfold dialectFaults
  cases f.dialect? with
  | none => simp
  | some d =>
    simp only [ite_eq_left_iff, reduceCtorEq, imp_false, not_not, List.mem_cons, List.not_mem_nil,
      or_false, false_or, Option.some.injEq, List.cons_ne_nil]

theorem aliasFaults_eq_nil :
    f.aliasFaults = [] ↔ (f.dependencies.map SourcePath.moduleAlias).Nodup := by
  have pairs : f.aliasFaults = [] ↔ ∀ d i, f.dependencies[i]? = some d →
      ∀ e ∈ f.dependencies.take i, SourcePath.moduleAlias e ≠ SourcePath.moduleAlias d := by
    simp [aliasFaults, aliasFault?, List.mem_zipIdx_iff_getElem?]
  rw [pairs, List.Nodup, List.pairwise_map, List.pairwise_iff_getElem]
  constructor
  · intro h i j hi hj hij
    exact h _ j (List.getElem?_eq_getElem hj) _ (List.mem_take_iff_getElem.mpr ⟨i, by omega, rfl⟩)
  · intro h d j hd e he
    obtain ⟨hj, rfl⟩ := List.getElem?_eq_some_iff.mp hd
    obtain ⟨i, hi, rfl⟩ := List.mem_take_iff_getElem.mp he
    exact h i j (by omega) hj (by omega)

theorem slotFaults_eq_nil {r : Registry} : f.slots.flatMap (Slot.faults r) = [] ↔
    (∀ m, Visible f.messages m → ∀ g ∈ m.fields, r.AcceptsField g) ∧
    ∀ g, (g ∈ f.extensions ∨ ∃ m, Visible f.messages m ∧ g ∈ m.extensions) →
      r.Declares g.type g.typeName := by
  rw [List.flatMap_eq_nil_iff]
  simp only [slots, List.mem_append, MessageDescriptor.mem_slotsAll, List.mem_map]
  constructor
  · intro h
    constructor
    · intro m hm g hg
      exact Registry.faults_field_eq_nil.mp (h _ (.inl ⟨m, hm, .inl ⟨g, hg, rfl⟩⟩))
    · rintro g (hg | ⟨m, hm, hg⟩)
      · exact Registry.faults_extension_eq_nil.mp (h _ (.inr ⟨g, hg, rfl⟩))
      · exact Registry.faults_extension_eq_nil.mp (h _ (.inl ⟨m, hm, .inr ⟨g, hg, rfl⟩⟩))
  · rintro ⟨fields, extensions⟩ x (⟨m, hm, ⟨g, hg, rfl⟩ | ⟨g, hg, rfl⟩⟩ | ⟨g, hg, rfl⟩)
    · exact Registry.faults_field_eq_nil.mpr (fields m hm g hg)
    · exact Registry.faults_extension_eq_nil.mpr (extensions g (.inr ⟨m, hm, hg⟩))
    · exact Registry.faults_extension_eq_nil.mpr (extensions g (.inl hg))

theorem faults_eq_nil {r : Registry} : f.faults r = [] ↔ r.Accepts f := by
  simp only [faults, List.append_eq_nil_iff, dialectFaults_eq_nil, aliasFaults_eq_nil,
    slotFaults_eq_nil]
  constructor
  · rintro ⟨⟨dialect, aliases⟩, fields, extensions⟩
    exact ⟨dialect, aliases, fields, extensions⟩
  · rintro ⟨dialect, aliases, fields, extensions⟩
    exact ⟨⟨dialect, aliases⟩, fields, extensions⟩

end FileDescriptor

theorem FlowModule.accepts_of_ofFile {o : Options} {r : Registry} {f : FileDescriptor}
    {m : FlowModule} (h : (FlowModule.ofFile o r f).outcome = .ok m) : r.Accepts f := by
  have faults := f.failureOf_module o r
  rw [h, failureOf_ok] at faults
  exact FileDescriptor.faults_eq_nil.mp (List.head?_eq_none_iff.mp faults.symm)

theorem lastNamed_eq_some {files : List FileDescriptor} {name : String} {f : FileDescriptor} :
    (files.filter (·.name = name)).getLast? = some f ↔ ∃ before after,
      files = before ++ f :: after ∧ f.name = name ∧ ∀ g ∈ after, g.name ≠ name := by
  rw [← List.head?_reverse, ← List.filter_reverse, List.head?_filter,
    List.find?_eq_some_iff_append]
  simp only [decide_eq_true_eq, List.reverse_eq_append_iff, List.reverse_cons, List.append_assoc,
    List.singleton_append, Bool.not_eq_true', decide_eq_false_iff_not]
  constructor
  · rintro ⟨hf, after, before, rfl, h⟩
    exact ⟨before.reverse, after.reverse, rfl, hf, fun g hg => h g (List.mem_reverse.mp hg)⟩
  · rintro ⟨before, after, rfl, hf, h⟩
    refine ⟨hf, after.reverse, before.reverse, ?_, fun g hg => h g (List.mem_reverse.mp hg)⟩
    rw [List.reverse_reverse, List.reverse_reverse]

/-- A request is answered exactly if each requested file is there and the last one of its name is
accepted. Otherwise the first of all faults is reported. -/
theorem generate_ok_iff_and_error_iff (o : Options) (files : List FileDescriptor)
    (requested : List String) :
    ((∃ outputs, (generate o files requested).outcome = .ok outputs) ↔
      ∀ name ∈ requested, ∃ before f after, files = before ++ f :: after ∧ f.name = name ∧
        (∀ g ∈ after, g.name ≠ name) ∧ (Registry.ofFiles files).Accepts f) ∧
    ∀ e, (generate o files requested).outcome = .error e ↔
      (requestFaults files requested).head? = some e := by
  constructor
  · rw [← failureOf_eq_none, failureOf_generate, List.head?_eq_none_iff, requestFaults,
      List.flatMap_eq_nil_iff]
    refine forall₂_congr fun name _ => ?_
    constructor
    · intro h
      cases hl : (files.filter (·.name = name)).getLast? with
      | none =>
        rw [hl] at h
        cases h
      | some f =>
        rw [hl] at h
        obtain ⟨before, after, hfiles, hf, hafter⟩ := lastNamed_eq_some.mp hl
        exact ⟨before, f, after, hfiles, hf, hafter, FileDescriptor.faults_eq_nil.mp h⟩
    · rintro ⟨before, f, after, hfiles, hf, hafter, accepted⟩
      rw [lastNamed_eq_some.mpr ⟨before, after, hfiles, hf, hafter⟩]
      exact FileDescriptor.faults_eq_nil.mpr accepted
  · intro e
    rw [← failureOf_eq_some, failureOf_generate]

end FlowSchema
