import FlowSchema.Proofs.Rendered
import FlowSchema.Proofs.Resolved
import FlowSchema.Proofs.Unbroken

namespace FlowSchema

open Identifier Layout Text

namespace Declaration

def IsUnbroken (d : Declaration) : Prop := Unbroken d.name ∧ ∀ s ∈ d.body, Unbroken s

theorem unbroken_heading {d : Declaration} (h : Unbroken d.name) (exact : Bool) :
    Unbroken (d.heading exact) := by
  cases d with
  | object name _ =>
    simp only [heading_object, unbroken_append]
    exact ⟨⟨⟨by decide, h⟩, by decide⟩, by cases exact <;> decide⟩
  | table name _ =>
    simp only [heading_table, unbroken_append]
    exact ⟨⟨by decide, h⟩, by decide⟩

theorem IsUnbroken.layout {d : Declaration} (h : d.IsUnbroken) (exact : Bool) :
    ∀ p ∈ d.layout exact, Unbroken p.content := by
  have closing : Unbroken (d.closing exact) := by
    cases d <;> cases exact <;> simp only [Declaration.closing, Bool.false_eq_true, ↓reduceIte] <;>
      decide
  intro p hp
  rw [Declaration.layout, List.cons_append, List.mem_cons, List.mem_append, List.mem_map] at hp
  rcases hp with rfl | ⟨s, hs, rfl⟩ | hp
  · exact unbroken_heading h.1 exact
  · exact unbroken_append.mpr ⟨by decide, h.2 s hs⟩
  · rcases List.mem_cons.mp hp with rfl | hp
    · exact closing
    · obtain rfl := List.mem_singleton.mp hp
      decide

theorem isUnbroken_table {name : String} {constants : List (String × Int32)} (hn : Unbroken name)
    (hc : ∀ c ∈ constants, Unbroken c.1) : (table name constants).IsUnbroken := by
  refine ⟨hn, fun s hs => ?_⟩
  obtain ⟨c, hmem, rfl⟩ := List.mem_map.mp hs
  simp only [unbroken_append]
  exact ⟨⟨⟨hc c hmem, by decide⟩, unbroken_repr _⟩, by decide⟩

theorem isUnbroken_object {name : String} {properties : List Property} (hn : Unbroken name)
    (hp : ∀ p ∈ properties, Unbroken p.text) : (object name properties).IsUnbroken := by
  refine ⟨hn, fun s hs => ?_⟩
  obtain ⟨p, hmem, rfl⟩ := List.mem_map.mp hs
  exact hp p hmem

end Declaration

theorem EnumDescriptor.isUnbroken_table {e : EnumDescriptor} {outer : String}
    (ho : Unbroken outer) (clean : ∀ s ∈ e.strings, Unbroken s) : (e.table outer).IsUnbroken := by
  obtain ⟨name, values⟩ := forall_strings.mp clean
  refine Declaration.isUnbroken_table (unbroken_nested ho (unbroken_getD name)) fun c hc => ?_
  obtain ⟨v, hv, rfl⟩ := List.mem_map.mp hc
  exact unbroken_getD (values v hv)

theorem MessageDescriptor.isUnbroken_tables {m : MessageDescriptor} {outer : String}
    (ho : Unbroken outer) (clean : ∀ s ∈ m.strings, Unbroken s) :
    ∀ d ∈ m.tables outer, d.IsUnbroken := by
  obtain ⟨-, fields, -, -, -, oneofs⟩ := forall_strings.mp clean
  intro d hd
  obtain ⟨⟨o, i⟩, hmem, hd⟩ := List.mem_flatMap.mp hd
  have ho' : Unbroken o.name := unbroken_getD (oneofs o (List.fst_mem_of_mem_zipIdx hmem))
  dsimp only at hd
  split at hd
  · cases hd
  · obtain rfl := List.mem_singleton.mp hd
    refine Declaration.isUnbroken_table (unbroken_nested ho ?_) fun c hc => ?_
    · exact unbroken_append.mpr ⟨unbroken_oneofName ho', by decide⟩
    · rcases List.mem_cons.mp hc with rfl | hc
      · exact unbroken_append.mpr ⟨unbroken_constantName ho', by decide⟩
      · obtain ⟨f, hf, rfl⟩ := List.mem_map.mp hc
        rw [members_eq] at hf
        have strings := fields f (List.mem_of_mem_filter hf)
        exact unbroken_constantName (unbroken_getD (FieldDescriptor.forall_strings.mp strings).1)

namespace FlowType

variable {t u : FlowType}

theorem unbroken_array (h : Unbroken t.text) : Unbroken (array t).text := by
  simp only [text_array, unbroken_append]
  exact ⟨⟨by decide, h⟩, by decide⟩

theorem unbroken_repeatedIf (h : Unbroken t.text) (isRepeated : Bool) :
    Unbroken (t.repeatedIf isRepeated).text := by
  cases isRepeated with
  | false => exact h
  | true => exact unbroken_array h

theorem unbroken_pair (ht : Unbroken t.text) (hu : Unbroken u.text) : Unbroken (pair t u).text := by
  simp only [text_pair, unbroken_append]
  exact ⟨⟨⟨⟨by decide, ht⟩, by decide⟩, hu⟩, by decide⟩

theorem unbroken_valuesOf {target : Reference} (h : Unbroken target.text) :
    Unbroken (valuesOf target).text := by
  simp only [text_valuesOf, unbroken_append]
  exact ⟨⟨by decide, h⟩, by decide⟩

theorem unbroken_textLiteral {s : String} (h : Unbroken s) : Unbroken (textLiteral s).text := by
  simp only [text_textLiteral, unbroken_append]
  exact ⟨⟨by decide, h⟩, by decide⟩

end FlowType

theorem Property.unbroken_text {key : String} {type : FlowType} (hk : Unbroken key)
    (ht : Unbroken type.text) (isOptional : Bool) :
    Unbroken (Property.mk key isOptional type).text := by
  have mark : Unbroken (if isOptional then "?" else "") := by
    split <;> decide
  change Unbroken (key ++ (if isOptional then "?" else "") ++ ": " ++ type.text ++ ",")
  simp only [unbroken_append]
  exact ⟨⟨⟨⟨hk, mark⟩, by decide⟩, ht⟩, by decide⟩

namespace FileScope

variable {s : FileScope} (hr : s.registry.IsUnbroken)

theorem unbroken_reference {file package : String} {n : QualifiedName} (hf : Unbroken file)
    (hn : Unbroken n.text) : Unbroken (s.reference file package n).text := by
  have name := QualifiedName.unbroken_within hn package
  by_cases h : file = s.file
  · rw [reference, if_pos h]
    exact name
  · rw [reference, if_neg h]
    exact unbroken_append.mpr
      ⟨unbroken_append.mpr ⟨SourcePath.unbroken_moduleAlias hf, by decide⟩, name⟩

include hr

theorem Resolves.unbroken {t : FieldType} {typeName : String} {type : FlowType}
    (h : s.Resolves t typeName type) (hn : Unbroken typeName) : Unbroken type.text := by
  have name := QualifiedName.unbroken_ofTypeName hn
  cases h with
  | message _ entry => exact unbroken_reference (hr.messageFile _ _ entry) name
  | enum _ entry =>
    exact FlowType.unbroken_valuesOf (unbroken_reference (hr.enumFile _ _ entry) name)
  | scalar _ mem =>
    simp only [List.mem_cons, List.not_mem_nil, or_false] at mem
    rcases mem with rfl | rfl | rfl | rfl <;> decide

theorem unbroken_property {f : FieldDescriptor} {p : Property} (h : (s.property f).outcome = .ok p)
    (clean : ∀ s ∈ f.strings, Unbroken s) : Unbroken p.text := by
  obtain ⟨name, -, typeName, -⟩ := FieldDescriptor.forall_strings.mp clean
  have key : Unbroken (fieldName f.name) := unbroken_fieldName (unbroken_getD name)
  have typeName : Unbroken f.typeName := unbroken_getD typeName
  rcases property_eq_ok h with ⟨e, sides, k, v, he, hs, hk, hv, rfl⟩ | ⟨-, type, ht, rfl⟩
  · obtain ⟨-, -, entry, -⟩ := Registry.entryOf?_eq_some.mp he
    obtain ⟨keyName, valueName⟩ := hr.sides _ _ _ entry hs
    have pair := FlowType.unbroken_pair (hk.unbroken hr keyName) (hv.unbroken hr valueName)
    exact Property.unbroken_text key (FlowType.unbroken_array pair) _
  · have type := FlowType.unbroken_repeatedIf (ht.unbroken hr typeName) f.isRepeated
    exact Property.unbroken_text key type _

theorem isUnbroken_extension {outer : String} {f : FieldDescriptor} {d : Declaration}
    (ho : Unbroken outer) (h : (s.extension outer f).outcome = .ok d)
    (clean : ∀ s ∈ f.strings, Unbroken s) : d.IsUnbroken := by
  obtain ⟨name, extendee, typeName, -⟩ := FieldDescriptor.forall_strings.mp clean
  have name : Unbroken f.name := unbroken_getD name
  have extendee : Unbroken f.extendee := unbroken_getD extendee
  have typeName : Unbroken f.typeName := unbroken_getD typeName
  obtain ⟨type, ht, rfl⟩ := extension_eq_ok h
  refine Declaration.isUnbroken_object (unbroken_nested ho (unbroken_fieldName name)) fun p hp => ?_
  simp only [List.mem_cons, List.not_mem_nil, or_false] at hp
  rcases hp with rfl | rfl | rfl
  · have number : Unbroken (FlowType.numberLiteral f.number).text := unbroken_repr _
    exact Property.unbroken_text (by decide) number _
  · have bare := QualifiedName.unbroken_bare (QualifiedName.unbroken_ofTypeName extendee)
    exact Property.unbroken_text (by decide) (FlowType.unbroken_textLiteral bare) _
  · have type := FlowType.unbroken_repeatedIf (ht.unbroken hr typeName) f.isRepeated
    exact Property.unbroken_text (by decide) type _

theorem isUnbroken_messageDeclarations {outer : String} {m : MessageDescriptor}
    {ds : List Declaration} (h : (s.messageDeclarations outer m).outcome = .ok ds) :
    Unbroken outer → (∀ s ∈ m.strings, Unbroken s) → ∀ d ∈ ds, d.IsUnbroken := by
  apply messageDeclarations_induction ?_ ?_ h
  · intro _ _ _ _ _ d hd
    cases hd
  · intro outer m properties inner extensions _ hp hi he ho clean d hd
    obtain ⟨name, fields, nested, enums, hext, -⟩ := MessageDescriptor.forall_strings.mp clean
    have hname : Unbroken (Identifier.nested outer m.name) :=
      unbroken_nested ho (unbroken_getD name)
    simp only [List.mem_cons, List.mem_append, List.mem_flatten, List.mem_map] at hd
    rcases hd with rfl | ((⟨part, hpart, hd⟩ | ⟨e, hmem, rfl⟩) | hd) | hd
    · refine Declaration.isUnbroken_object hname fun p hmem => ?_
      obtain ⟨f, hf, hfp⟩ := exists_of_mem_right hp hmem
      exact unbroken_property hr hfp (fields f hf)
    · obtain ⟨n, hn, hnp⟩ := exists_of_mem_right hi hpart
      exact hnp hname (nested n hn) d hd
    · exact e.isUnbroken_table hname (enums e hmem)
    · exact m.isUnbroken_tables hname clean d hd
    · obtain ⟨f, hf, hfd⟩ := exists_of_mem_right he hd
      exact isUnbroken_extension hr hname hfd (hext f hf)

theorem isUnbroken_fileDeclarations {f : FileDescriptor} {ds : List Declaration}
    (h : (s.fileDeclarations f).outcome = .ok ds) (clean : ∀ s ∈ f.strings, Unbroken s) :
    ∀ d ∈ ds, d.IsUnbroken := by
  obtain ⟨-, -, -, messages, enums, hext, -⟩ := FileDescriptor.forall_strings.mp clean
  have empty : Unbroken "" := by decide
  obtain ⟨parts, extensions, hparts, hextensions, rfl⟩ := fileDeclarations_eq_ok h
  intro d hd
  simp only [List.mem_append, List.mem_flatten, List.mem_map] at hd
  rcases hd with (⟨part, hpart, hd⟩ | hd) | ⟨e, he, rfl⟩
  · obtain ⟨m, hm, hmp⟩ := exists_of_mem_right hparts hpart
    exact isUnbroken_messageDeclarations hr hmp empty (messages m hm) d hd
  · obtain ⟨e, he, hed⟩ := exists_of_mem_right hextensions hd
    exact isUnbroken_extension hr empty hed (hext e he)
  · exact e.isUnbroken_table empty (enums e he)

end FileScope

theorem FlowModule.unbroken_layout {o : Options} {r : Registry} {f : FileDescriptor}
    {m : FlowModule} (h : (FlowModule.ofFile o r f).outcome = .ok m) (hr : r.IsUnbroken)
    (ho : ∀ s ∈ o.strings, Unbroken s) (clean : ∀ s ∈ f.strings, Unbroken s) :
    ∀ p ∈ m.layout o.exactObjects, Unbroken p.content := by
  obtain ⟨dialect, declarations, hd, rfl⟩ := ofFile_eq_ok h
  obtain ⟨name, package, dependencies, -⟩ := FileDescriptor.forall_strings.mp clean
  intro p hp
  simp only [layout, List.mem_append, List.mem_flatMap] at hp
  rcases hp with (hp | hp) | ⟨d, hmem, hp⟩
  · simp only [header, List.mem_cons, List.not_mem_nil, or_false] at hp
    rcases hp with rfl | rfl | rfl | rfl
    · decide
    · exact unbroken_append.mpr ⟨by decide, unbroken_getD package⟩
    · exact unbroken_append.mpr ⟨by decide, unbroken_getD name⟩
    · decide
  · unfold importBlock at hp
    split at hp
    · cases hp
    · simp only [List.mem_append, List.mem_map, List.mem_singleton] at hp
      rcases hp with ⟨i, ⟨dependency, hdep, rfl⟩, rfl⟩ | rfl
      · exact Import.unbroken_text (ho _ (by simp [Options.strings])) (dependencies dependency hdep)
      · decide
  · exact (FileScope.isUnbroken_fileDeclarations hr hd clean d hmem).layout _ p hp

end FlowSchema
