import FlowSchema.Proofs.Places
import FlowSchema.Proofs.Rendering

namespace FlowSchema

def FirstNamed (name : String) (fields : List FieldDescriptor) (f : FieldDescriptor) : Prop :=
  ∃ before after, fields = before ++ f :: after ∧ f.name = name ∧ ∀ g ∈ before, g.name ≠ name

theorem find?_eq_some_iff_firstNamed {name : String} {fields : List FieldDescriptor}
    {f : FieldDescriptor} : fields.find? (·.name = name) = some f ↔ FirstNamed name fields f := by
  rw [List.find?_eq_some_iff_append]
  simp only [decide_eq_true_eq, Bool.not_eq_true', decide_eq_false_iff_not, FirstNamed]
  constructor
  · rintro ⟨named, before, after, split, other⟩
    exact ⟨before, after, split, named, other⟩
  · rintro ⟨before, after, split, named, other⟩
    exact ⟨named, before, after, split, other⟩

theorem MessageDescriptor.mapSides?_eq_some_iff {m : MessageDescriptor} {sides : MapSides} :
    m.mapSides? = some sides ↔ m.isMapEntry = true ∧ ∃ key value,
      FirstNamed "key" m.fields key ∧ FirstNamed "value" m.fields value ∧
      sides = ⟨.ofField key, .ofField value⟩ := by
  simp only [← find?_eq_some_iff_firstNamed]
  unfold mapSides?
  by_cases entry : m.isMapEntry = true
  · rw [if_pos entry]
    cases m.fields.find? (·.name = "key") with
    | none => simp
    | some key =>
      cases m.fields.find? (·.name = "value") with
      | none => simp
      | some value => simp [entry, eq_comm]
  · simp [entry]

structure MessageEntry.Describes (e : MessageEntry) (f : FileDescriptor) (m : MessageDescriptor) :
    Prop where
  file : e.file = f.name
  package : e.package = f.package
  isMapEntry : e.isMapEntry = m.isMapEntry
  sides : ∀ sides, e.mapSides? = some sides ↔ m.isMapEntry = true ∧ ∃ key value,
    FirstNamed "key" m.fields key ∧ FirstNamed "value" m.fields value ∧
    sides = ⟨.ofField key, .ofField value⟩

structure EnumEntry.Describes (e : EnumEntry) (f : FileDescriptor) : Prop where
  file : e.file = f.name
  package : e.package = f.package

theorem MessageEntry.describes_iff {e : MessageEntry} {f : FileDescriptor} {m : MessageDescriptor} :
    e.Describes f m ↔ e = ⟨f.name, f.package, m.isMapEntry, m.mapSides?⟩ := by
  constructor
  · rintro ⟨file, package, isMapEntry, sides⟩
    obtain ⟨eFile, ePackage, eIsMapEntry, eSides⟩ := e
    obtain rfl : eFile = f.name := file
    obtain rfl : ePackage = f.package := package
    obtain rfl : eIsMapEntry = m.isMapEntry := isMapEntry
    have same : eSides = m.mapSides? :=
      Option.ext fun s => (sides s).trans MessageDescriptor.mapSides?_eq_some_iff.symm
    rw [same]
  · rintro rfl
    exact ⟨rfl, rfl, rfl, fun _ => MessageDescriptor.mapSides?_eq_some_iff⟩

theorem EnumEntry.describes_iff {e : EnumEntry} {f : FileDescriptor} :
    e.Describes f ↔ e = ⟨f.name, f.package⟩ := by
  constructor
  · rintro ⟨file, package⟩
    obtain ⟨eFile, ePackage⟩ := e
    obtain rfl : eFile = f.name := file
    obtain rfl : ePackage = f.package := package
    rfl
  · rintro rfl
    exact ⟨rfl, rfl⟩

namespace Registry

variable (files : List FileDescriptor)

theorem enumerates_messageEntries : Enumerates MessageEarlier
    (fun p => (messageAt? files p).map fun d =>
      (d.2.1, (⟨d.1.name, d.1.package, d.2.2.isMapEntry, d.2.2.mapSides?⟩ : MessageEntry)))
    (files.flatMap messageEntries) := by
  refine ((Enumerates.list files).flatMap fun f _ => f.enumerates_messages.map _).congr fun p => ?_
  cases h : files[p.1]? with
  | none => simp [messageAt?, h]
  | some f => simp [messageAt?, h, Function.comp_def]

theorem enumerates_enumEntries : Enumerates EnumEarlier
    (fun p => (enumAt? files p).map fun d => (d.2.1, (⟨d.1.name, d.1.package⟩ : EnumEntry)))
    (files.flatMap enumEntries) := by
  refine ((Enumerates.list files).flatMap fun f _ => f.enumerates_enums.map _).congr fun p => ?_
  cases h : files[p.1]? with
  | none => simp [enumAt?, h]
  | some f => simp [enumAt?, h, Function.comp_def]

variable {files} {n : QualifiedName}

theorem message?_isSome_iff : ((ofFiles files).message? n).isSome ↔
    ∃ p f m, messageAt? files p = some (f, n, m) := by
  rw [message?, ofFiles_eq, (enumerates_messageEntries files).lookup_isSome]
  refine exists_congr fun p => ?_
  simp only [Option.map_eq_some_iff, Prod.mk.injEq, Prod.exists]
  constructor
  · rintro ⟨e, f, n, m, hp, rfl, rfl⟩
    exact ⟨f, m, hp⟩
  · rintro ⟨f, m, hp⟩
    exact ⟨_, f, n, m, hp, rfl, rfl⟩

theorem enum?_isSome_iff : ((ofFiles files).enum? n).isSome ↔
    ∃ p f d, enumAt? files p = some (f, n, d) := by
  rw [enum?, ofFiles_eq, (enumerates_enumEntries files).lookup_isSome]
  refine exists_congr fun p => ?_
  simp only [Option.map_eq_some_iff, Prod.mk.injEq, Prod.exists]
  constructor
  · rintro ⟨e, f, n, d, hp, rfl, rfl⟩
    exact ⟨f, d, hp⟩
  · rintro ⟨f, d, hp⟩
    exact ⟨_, f, n, d, hp, rfl, rfl⟩

theorem message?_eq_some_iff {e : MessageEntry} : (ofFiles files).message? n = some e ↔
    ∃ p f m, messageAt? files p = some (f, n, m) ∧
      (∀ q g k, messageAt? files q = some (g, n, k) → q = p ∨ MessageEarlier q p) ∧
      e.Describes f m := by
  rw [message?, ofFiles_eq, (enumerates_messageEntries files).lookup_eq_some MessageEarlier.asymm]
  refine exists_congr fun p => ?_
  simp only [Option.map_eq_some_iff, Prod.mk.injEq, Prod.exists, MessageEntry.describes_iff]
  constructor
  · rintro ⟨⟨f, n, m, hp, rfl, rfl⟩, last⟩
    exact ⟨f, m, hp, fun q g k hq => last q _ ⟨g, n, k, hq, rfl, rfl⟩, rfl⟩
  · rintro ⟨f, m, hp, last, rfl⟩
    refine ⟨⟨f, n, m, hp, rfl, rfl⟩, ?_⟩
    rintro q d ⟨g, n, k, hq, rfl, -⟩
    exact last q g k hq

theorem enum?_eq_some_iff {e : EnumEntry} : (ofFiles files).enum? n = some e ↔
    ∃ p f d, enumAt? files p = some (f, n, d) ∧
      (∀ q g k, enumAt? files q = some (g, n, k) →
        q = p ∨ EnumEarlier q p) ∧ e.Describes f := by
  rw [enum?, ofFiles_eq, (enumerates_enumEntries files).lookup_eq_some EnumEarlier.asymm]
  refine exists_congr fun p => ?_
  simp only [Option.map_eq_some_iff, Prod.mk.injEq, Prod.exists, EnumEntry.describes_iff]
  constructor
  · rintro ⟨⟨f, n, d, hp, rfl, rfl⟩, last⟩
    exact ⟨f, d, hp, fun q g k hq => last q _ ⟨g, n, k, hq, rfl, rfl⟩, rfl⟩
  · rintro ⟨f, d, hp, last, rfl⟩
    refine ⟨⟨f, n, d, hp, rfl, rfl⟩, ?_⟩
    rintro q e ⟨g, n, k, hq, rfl, -⟩
    exact last q g k hq

theorem message?_insert_of_undeclared {r : Registry} {f : FileDescriptor}
    (h : ∀ place m, f.messageAt? place ≠ some (n, m)) :
    (r.insert f).message? n = r.message? n := by
  have entries : Enumerates Earlier _ (messageEntries f) := f.enumerates_messages.map _
  have none : (messageEntries f).reverse.lookup n = none := by
    rw [← Option.not_isSome_iff_eq_none, entries.lookup_isSome]
    rintro ⟨place, e, hp⟩
    obtain ⟨⟨k, m⟩, hm, heq⟩ := Option.map_eq_some_iff.mp hp
    cases heq
    exact h place m hm
  rw [message?_insert, none, Option.none_or]

theorem enum?_insert_of_undeclared {r : Registry} {f : FileDescriptor}
    (h : ∀ place d, f.enumAt? place ≠ some (n, d)) : (r.insert f).enum? n = r.enum? n := by
  have entries : Enumerates (Prod.Lex Earlier (· < ·)) _ (enumEntries f) :=
    f.enumerates_enums.map _
  have none : (enumEntries f).reverse.lookup n = none := by
    rw [← Option.not_isSome_iff_eq_none, entries.lookup_isSome]
    rintro ⟨place, e, hp⟩
    obtain ⟨⟨k, d⟩, hd, heq⟩ := Option.map_eq_some_iff.mp hp
    cases heq
    exact h place d hd
  rw [enum?_insert, none, Option.none_or]

theorem addAll_lookups (files : List FileDescriptor) (n : QualifiedName) :
    ∃ r, (empty.addAll files).outcome = .ok r ∧ r = ofFiles files ∧
      ((r.message? n).isSome ↔ ∃ p f m, messageAt? files p = some (f, n, m)) ∧
      (∀ e, r.message? n = some e ↔ ∃ p f m, messageAt? files p = some (f, n, m) ∧
        (∀ q g k, messageAt? files q = some (g, n, k) → q = p ∨ MessageEarlier q p) ∧
        e.Describes f m) ∧
      ((r.enum? n).isSome ↔ ∃ p f d, enumAt? files p = some (f, n, d)) ∧
      (∀ e, r.enum? n = some e ↔ ∃ p f d, enumAt? files p = some (f, n, d) ∧
        (∀ q g k, enumAt? files q = some (g, n, k) → q = p ∨ EnumEarlier q p) ∧
        e.Describes f) ∧
      ∀ f, ((∀ place m, f.messageAt? place ≠ some (n, m)) →
          (r.insert f).message? n = r.message? n) ∧
        ((∀ place d, f.enumAt? place ≠ some (n, d)) → (r.insert f).enum? n = r.enum? n) := by
  refine ⟨ofFiles files, addAll_outcome empty files, rfl, message?_isSome_iff,
    fun _ => message?_eq_some_iff, enum?_isSome_iff, fun _ => enum?_eq_some_iff, fun f => ?_⟩
  exact ⟨message?_insert_of_undeclared, enum?_insert_of_undeclared⟩

end Registry

end FlowSchema
