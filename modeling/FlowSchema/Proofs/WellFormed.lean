import FlowSchema.Proofs.Dotted
import FlowSchema.Proofs.Lines
import FlowSchema.Proofs.Strings
import FlowSchema.Proofs.Uses

namespace FlowSchema

open Text

def NamesEntry (files : List FileDescriptor) (f : FieldDescriptor) : Prop :=
  (f.type = .message ∨ f.type = .group) ∧
    ∃ g ∈ files, ∃ d ∈ g.declaredMessages, d.1 = .ofTypeName f.typeName ∧ d.2.isMapEntry = true

instance (files : List FileDescriptor) (f : FieldDescriptor) : Decidable (NamesEntry files f) :=
  inferInstanceAs (Decidable (_ ∧ ∃ g ∈ files, ∃ d ∈ g.declaredMessages, _ ∧ _))

def FileDescriptor.allExtensions (f : FileDescriptor) : List FieldDescriptor :=
  f.extensions ++ f.declaredMessages.flatMap fun d => d.2.extensions

/-- What a compiler of schemas makes sure of before it hands over the files of a request. -/
structure WellFormed (files : List FileDescriptor) : Prop where
  distinctFiles : (files.map (·.name)).Nodup
  distinctMessages : ((files.flatMap (·.declaredMessages)).map Prod.fst).Nodup
  distinctEnums : ((files.flatMap (·.declaredEnums)).map Prod.fst).Nodup
  packages : ∀ f ∈ files, IsPackage f.package
  messageNames : ∀ f ∈ files, ∀ d ∈ f.declaredMessages, IsSegment d.2.name
  enumNames : ∀ f ∈ files, ∀ d ∈ f.declaredEnums, IsSegment d.2.name
  unbroken : ∀ f ∈ files, ∀ s ∈ f.strings, Unbroken s
  fields : ∀ f ∈ files, ∀ d ∈ f.declaredMessages, ∀ x ∈ d.2.fields,
    NamesEntry files x → x.label = .repeated ∧ x.type = .message
  extensions : ∀ f ∈ files, ∀ x ∈ f.allExtensions, ¬NamesEntry files x
  entries : ∀ f ∈ files, ∀ d ∈ f.declaredMessages,
    d.2.isMapEntry = true → d.2.nested = [] ∧ d.2.enums = []

def PlainSides (files : List FileDescriptor) : Prop :=
  ∀ f ∈ files, ∀ d ∈ f.declaredMessages, d.2.isMapEntry = true →
    ∀ x ∈ d.2.fields, ¬NamesEntry files x

theorem TypeUse.mem_ofType {t : FieldType} {typeName : String} {u : TypeUse}
    (h : u ∈ ofType t typeName) : u = ⟨t, .ofTypeName typeName⟩ ∧
      (t = .message ∨ t = .group ∨ t = .enum) := by
  cases t with
  | message | group | enum => exact ⟨List.mem_singleton.mp h, by simp⟩
  | _ => cases h

variable {files : List FileDescriptor} {f g : FileDescriptor} {u : TypeUse} {k : MessageDescriptor}

theorem namesEntry_of_use {x : FieldDescriptor} (hu : u ∈ TypeUse.ofType x.type x.typeName)
    (kind : u.type ≠ .enum) (hg : g ∈ files) (hk : (u.name, k) ∈ g.declaredMessages)
    (entry : k.isMapEntry = true) : NamesEntry files x := by
  obtain ⟨rfl, ht⟩ := TypeUse.mem_ofType hu
  refine ⟨?_, g, hg, _, hk, rfl, entry⟩
  rcases ht with ht | ht | ht
  · exact .inl ht
  · exact .inr ht
  · exact absurd ht kind

namespace WellFormed

variable (wf : WellFormed files)
include wf

theorem not_isMapEntry_of_field {d : QualifiedName × MessageDescriptor} {x : FieldDescriptor}
    (sides : PlainSides files) (hf : f ∈ files) (hd : d ∈ f.declaredMessages)
    (hx : x ∈ d.2.fields) (hu : u ∈ (Slot.field x).uses (Registry.ofFiles files))
    (kind : u.type ≠ .enum) (hg : g ∈ files) (hk : (u.name, k) ∈ g.declaredMessages) :
    k.isMapEntry ≠ true := by
  intro entry
  simp only [Slot.uses] at hu
  cases he : (Registry.ofFiles files).entryOf? x with
  | none =>
    rw [he] at hu
    obtain ⟨label, type⟩ := wf.fields f hf d hd x hx (namesEntry_of_use hu kind hg hk entry)
    obtain ⟨rfl, -⟩ := TypeUse.mem_ofType hu
    have registered := Registry.message?_of_declared wf.distinctMessages hg hk
    have found := Registry.entryOf?_eq_some.mpr
      ⟨by simpa [FieldDescriptor.isRepeated] using label, type, registered, entry⟩
    rw [he] at found
    cases found
  | some e =>
    rw [he] at hu
    obtain ⟨-, -, registered, isMapEntry⟩ := Registry.entryOf?_eq_some.mp he
    obtain ⟨h, hh, m, hm, rfl⟩ := Registry.message?_ofFiles registered
    cases hs : m.mapSides? with
    | none =>
      simp only [hs] at hu
      cases hu
    | some both =>
      obtain ⟨key, hkey, value, hvalue, rfl⟩ := MessageDescriptor.mapSides?_eq_some hs
      simp only [hs, List.mem_append] at hu
      rcases hu with hu | hu
      · exact sides h hh _ hm isMapEntry key hkey (namesEntry_of_use hu kind hg hk entry)
      · exact sides h hh _ hm isMapEntry value hvalue (namesEntry_of_use hu kind hg hk entry)

theorem not_isMapEntry_of_use (sides : PlainSides files) (hf : f ∈ files)
    (hu : u ∈ f.uses (Registry.ofFiles files)) (kind : u.type ≠ .enum) (hg : g ∈ files)
    (hk : (u.name, k) ∈ g.declaredMessages) : k.isMapEntry ≠ true := by
  have extension {x : FieldDescriptor} (hx : x ∈ f.allExtensions)
      (hu : u ∈ (Slot.extension x).uses (Registry.ofFiles files)) : k.isMapEntry ≠ true :=
    fun entry => wf.extensions f hf x hx (namesEntry_of_use hu kind hg hk entry)
  obtain ⟨slot, hslot, hu⟩ := List.mem_flatMap.mp hu
  rcases List.mem_append.mp hslot with hslot | hslot
  · obtain ⟨m, visible, hslot⟩ := MessageDescriptor.mem_slotsAll.mp hslot
    obtain ⟨n, hn⟩ := visible.declared f.scope
    rcases List.mem_append.mp hslot with hslot | hslot
    · obtain ⟨x, hx, rfl⟩ := List.mem_map.mp hslot
      exact wf.not_isMapEntry_of_field sides hf hn hx hu kind hg hk
    · obtain ⟨x, hx, rfl⟩ := List.mem_map.mp hslot
      exact extension (List.mem_append_right _ (List.mem_flatMap.mpr ⟨(n, m), hn, hx⟩)) hu
  · obtain ⟨x, hx, rfl⟩ := List.mem_map.mp hslot
    exact extension (List.mem_append_left _ hx) hu

theorem name_ne_empty (hf : f ∈ files) {m : MessageDescriptor}
    (visible : MessageDescriptor.Visible f.messages m) : m.name ≠ "" := by
  obtain ⟨n, hn⟩ := visible.declared f.scope
  exact (wf.messageNames f hf (n, m) hn).1

end WellFormed

end FlowSchema
