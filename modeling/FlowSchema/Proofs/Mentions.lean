import FlowSchema.Proofs.Rendered
import FlowSchema.Proofs.Resolved

namespace FlowSchema

inductive Mention
  | object (target : Reference)
  | valuesOf (target : Reference)
deriving DecidableEq

namespace FlowType

def mentions : FlowType → List Mention
  | object target => [.object target]
  | valuesOf target => [.valuesOf target]
  | array element => element.mentions
  | pair first second => first.mentions ++ second.mentions
  | number | boolean | string | bytes | numberLiteral _ | textLiteral _ => []

theorem mentions_repeatedIf (isRepeated : Bool) (t : FlowType) :
    (t.repeatedIf isRepeated).mentions = t.mentions := by
  cases isRepeated with
  | false | true => rfl

end FlowType

def Declaration.mentions : Declaration → List Mention
  | object _ properties => properties.flatMap fun p => p.type.mentions
  | table .. => []

theorem flatMap_mentions_flatten (parts : List (List Declaration)) :
    parts.flatten.flatMap Declaration.mentions =
      parts.flatMap (·.flatMap Declaration.mentions) := by
  rw [← List.flatMap_id, List.flatMap_assoc]
  rfl

def FlowModule.mentions (m : FlowModule) : List Mention :=
  m.declarations.flatMap Declaration.mentions

namespace FileScope

inductive Writes (s : FileScope) (u : TypeUse) : Mention → Prop
  | message {e : MessageEntry} (kind : u.type ≠ .enum)
      (entry : s.registry.message? u.name = some e) :
      Writes s u (.object (s.reference e.file e.package u.name))
  | enum {e : EnumEntry} (kind : u.type = .enum) (entry : s.registry.enum? u.name = some e) :
      Writes s u (.valuesOf (s.reference e.file e.package u.name))

variable {s : FileScope}

theorem Resolves.mentions {t : FieldType} {typeName : String} {type : FlowType}
    (h : s.Resolves t typeName type) :
    List.Forall₂ s.Writes (TypeUse.ofType t typeName) type.mentions := by
  cases h with
  | message kind entry =>
    rcases kind with rfl | rfl
    · exact .cons (.message (by simp) entry) .nil
    · exact .cons (.message (by simp) entry) .nil
  | enum kind entry =>
    subst kind
    exact .cons (.enum rfl entry) .nil
  | scalar nameless mem =>
    rw [nameless]
    simp only [List.mem_cons, List.not_mem_nil, or_false] at mem
    rcases mem with rfl | rfl | rfl | rfl <;> exact .nil

theorem property_mentions {f : FieldDescriptor} {p : Property}
    (h : (s.property f).outcome = .ok p) :
    List.Forall₂ s.Writes ((Slot.field f).uses s.registry) p.type.mentions := by
  rcases property_eq_ok h with ⟨e, sides, k, v, he, hs, hk, hv, rfl⟩ | ⟨he, type, ht, rfl⟩
  · simp only [Slot.uses, he, hs]
    exact List.rel_append hk.mentions hv.mentions
  · simp only [Slot.uses, he, FlowType.mentions_repeatedIf]
    exact ht.mentions

theorem extension_mentions {outer : String} {f : FieldDescriptor} {d : Declaration}
    (h : (s.extension outer f).outcome = .ok d) :
    List.Forall₂ s.Writes ((Slot.extension f).uses s.registry) d.mentions := by
  obtain ⟨type, ht, rfl⟩ := extension_eq_ok h
  simp only [Declaration.mentions, List.flatMap_cons, List.flatMap_nil, FlowType.mentions,
    FlowType.mentions_repeatedIf, List.nil_append, List.append_nil]
  exact ht.mentions

theorem tables_mentions (outer : String) (m : MessageDescriptor) :
    (m.tables outer).flatMap Declaration.mentions = [] := by
  rw [List.flatMap_eq_nil_iff]
  intro d hd
  obtain ⟨⟨o, i⟩, -, hd⟩ := List.mem_flatMap.mp hd
  dsimp only at hd
  split at hd
  · cases hd
  · obtain rfl := List.mem_singleton.mp hd
    rfl

theorem enums_mentions (outer : String) (es : List EnumDescriptor) :
    (es.map (·.table outer)).flatMap Declaration.mentions = [] := by
  rw [List.flatMap_eq_nil_iff]
  intro d hd
  obtain ⟨e, -, rfl⟩ := List.mem_map.mp hd
  rfl

theorem message_mentions {outer : String} {m : MessageDescriptor} {ds : List Declaration}
    (h : (s.messageDeclarations outer m).outcome = .ok ds) :
    List.Forall₂ s.Writes (m.slots.flatMap (Slot.uses s.registry))
      (ds.flatMap Declaration.mentions) := by
  refine messageDeclarations_induction
    (P := fun _ m ds => List.Forall₂ s.Writes (m.slots.flatMap (Slot.uses s.registry))
      (ds.flatMap Declaration.mentions)) ?_ ?_ h
  · intro _ m hm
    rw [MessageDescriptor.slots_of_isMapEntry hm]
    exact .nil
  · intro outer m properties inner extensions plain hp hi he
    rw [MessageDescriptor.slots_eq plain, MessageDescriptor.slotsAll_eq]
    simp only [List.flatMap_append, List.flatMap_cons, enums_mentions, tables_mentions,
      List.append_nil, flatMap_mentions_flatten]
    simp only [List.flatMap_map, List.flatMap_assoc, ← List.append_assoc]
    refine List.rel_append (List.rel_append ?_ ?_) ?_
    · exact List.rel_flatMap hp fun _ _ h => property_mentions h
    · exact List.rel_flatMap hi fun _ _ h => h
    · exact List.rel_flatMap he fun _ _ h => extension_mentions h

end FileScope

theorem FlowModule.mentions_ofFile {o : Options} {r : Registry} {f : FileDescriptor}
    {m : FlowModule} (h : (FlowModule.ofFile o r f).outcome = .ok m) :
    ∃ dialect, List.Forall₂ (FileScope.Writes ⟨r, f.name, dialect⟩) (f.uses r) m.mentions := by
  obtain ⟨dialect, declarations, hd, rfl⟩ := ofFile_eq_ok h
  refine ⟨dialect, ?_⟩
  obtain ⟨parts, extensions, hparts, hextensions, rfl⟩ := FileScope.fileDeclarations_eq_ok hd
  rw [FileDescriptor.uses, FileDescriptor.slots, MessageDescriptor.slotsAll_eq]
  simp only [mentions, List.flatMap_append, FileScope.enums_mentions, List.append_nil,
    flatMap_mentions_flatten]
  simp only [List.flatMap_map, List.flatMap_assoc]
  refine List.rel_append ?_ ?_
  · exact List.rel_flatMap hparts fun _ _ h => FileScope.message_mentions h
  · exact List.rel_flatMap hextensions fun _ _ h => FileScope.extension_mentions h

end FlowSchema
