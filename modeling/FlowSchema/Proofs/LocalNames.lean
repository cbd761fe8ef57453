import FlowSchema.Proofs.Exports
import FlowSchema.Proofs.Nesting
import Mathlib.Data.List.Nodup

namespace FlowSchema

open Identifier
open MessageDescriptor (Visible)

namespace Export

def name : Export → String
  | .type name => name
  | .const name => name

/-- A name starts like those inside a message if that of the message and a joint come first. -/
def StartsInside (outer s : String) : Prop := outer.toList ++ ['_'] <+: s.toList

instance (outer s : String) : Decidable (StartsInside outer s) :=
  inferInstanceAs (Decidable (outer.toList ++ ['_'] <+: s.toList))

theorem toList_pathName_cons (s : String) (path : List String) :
    ∃ rest, (pathName (s :: path)).toList = s.toList ++ rest ∧
      (rest ≠ [] → path ≠ [] ∧ ['_'] <+: rest) := by
  cases path with
  | nil => exact ⟨[], by simp [pathName], by simp⟩
  | cons t path => exact ⟨'_' :: (pathName (t :: path)).toList, by simp [pathName], by simp⟩

theorem startsInside_of_pathName_eq {s t : String} {p q : List String}
    (h : pathName (s :: p) = pathName (t :: q)) :
    s = t ∨ p ≠ [] ∧ StartsInside s t ∨ q ≠ [] ∧ StartsInside t s := by
  obtain ⟨rest, hs, joint⟩ := toList_pathName_cons s p
  obtain ⟨rest', ht, joint'⟩ := toList_pathName_cons t q
  have split : s.toList ++ rest = t.toList ++ rest' := by rw [← hs, ← ht, h]
  -- The longer of the two continues the shorter one, and does so with what comes after it.
  have longer {s t : String} {rest rest' between : List Char} {p : List String}
      (joint : rest ≠ [] → p ≠ [] ∧ ['_'] <+: rest) (ht : t.toList = s.toList ++ between)
      (hr : rest = between ++ rest') : s = t ∨ p ≠ [] ∧ StartsInside s t := by
    cases between with
    | nil => exact .inl (String.toList_inj.mp (by simpa using ht.symm))
    | cons c between =>
      obtain ⟨hp, first⟩ := joint (by simp [hr])
      obtain rfl : '_' = c := by simpa [hr] using first
      exact .inr ⟨hp, between, by simp [ht]⟩
  rcases List.append_eq_append_iff.mp split with ⟨between, ht, hr⟩ | ⟨between, hs, hr⟩
  · exact (longer joint ht hr).imp_right .inl
  · exact (longer joint' hs hr).imp Eq.symm .inr

theorem pathName_append {path : List String} (s : String) (rest : List String) (h : path ≠ []) :
    pathName (path ++ s :: rest) = pathName path ++ "_" ++ pathName (s :: rest) :=
  String.intercalate_append_of_ne_nil h (by simp)

theorem startsInside_pathName {path : List String} (s : String) (h : path ≠ []) :
    StartsInside s (pathName (s :: path)) := by
  cases path with
  | nil => exact absurd rfl h
  | cons t path => simp [StartsInside, pathName]

theorem pathName_append_ne {path : List String} (s : String) (rest : List String) (h : path ≠ []) :
    pathName (path ++ s :: rest) ≠ pathName path := by
  rw [pathName_append s rest h]
  intro heq
  have longer := congrArg String.length heq
  have joint : "_".length = 1 := by decide
  rw [String.length_append, String.length_append] at longer
  omega

theorem pathName_append_inj {path : List String} {s t : String} {p q : List String} :
    pathName (path ++ s :: p) = pathName (path ++ t :: q) ↔ pathName (s :: p) = pathName (t :: q) := by
  by_cases h : path = []
  · rw [h]
    rfl
  · rw [pathName_append s p h, pathName_append t q h, String.append_right_inj]

theorem pathName_snoc_inj {path : List String} {s t : String}
    (h : pathName (path ++ [s]) = pathName (path ++ [t])) : s = t := by
  simpa [pathName] using pathName_append_inj.mp h

end Export

/-- The messages of a file or a message, and the names that its other declarations add to its own
to be exported by. -/
structure ExportScope where
  messages : List MessageDescriptor
  others : List String

namespace MessageDescriptor

def caseNames (m : MessageDescriptor) : List String :=
  m.oneofs.zipIdx.flatMap fun (o, i) =>
    if m.members i ≠ [] ∧ ∀ f ∈ m.members i, f.proto3Optional = true then []
    else [oneofName o.name ++ "Case"]

def exportScope (m : MessageDescriptor) : ExportScope :=
  ⟨m.nested, m.enums.map (·.name) ++ m.caseNames ++ m.extensions.map fun f => fieldName f.name⟩

end MessageDescriptor

def FileDescriptor.exportScope (f : FileDescriptor) : ExportScope :=
  ⟨f.messages, f.extensions.map (fun x => fieldName x.name) ++ f.enums.map (·.name)⟩

namespace ExportScope

def messageNames (s : ExportScope) : List String :=
  (s.messages.filter (!·.isMapEntry)).map (·.name)

def localNames (s : ExportScope) : List String := s.messageNames ++ s.others

def names (path : List String) (s : ExportScope) : List String :=
  s.messages.flatMap (fun m => (m.exports path).map Export.name)
    ++ s.others.map fun x => Export.pathName (path ++ [x])

/-- A name that starts like those inside a message beside it is met by nothing that is exported for
what this message holds. -/
def Separate (s : ExportScope) : Prop :=
  ∀ m ∈ s.messages, m.isMapEntry = false → ∀ b ∈ s.localNames, Export.StartsInside m.name b →
    ∀ x ∈ m.exportScope.names [m.name], x ≠ b ∧ ¬Export.StartsInside b x

instance (s : ExportScope) : Decidable s.Separate :=
  inferInstanceAs (Decidable (∀ _ ∈ _, _ → ∀ _ ∈ _, _ → ∀ _ ∈ _, _))

def Unjoined (s : ExportScope) : Prop :=
  ∀ m ∈ s.messages, m.isMapEntry = false → ∀ b ∈ s.localNames, ¬Export.StartsInside m.name b

theorem Unjoined.separate {s : ExportScope} (h : s.Unjoined) : s.Separate :=
  fun m hm plain b hb inside => absurd inside (h m hm plain b hb)

inductive Holds (s : ExportScope) : ExportScope → Prop
  | self : Holds s s
  | message {m : MessageDescriptor} (visible : Visible s.messages m) : Holds s m.exportScope

theorem mem_messageNames {s : ExportScope} {m : MessageDescriptor} (hm : m ∈ s.messages)
    (plain : m.isMapEntry = false) : m.name ∈ s.messageNames :=
  List.mem_map_of_mem (List.mem_filter.mpr ⟨hm, by simp [plain]⟩)

theorem Holds.inner {s t : ExportScope} {m : MessageDescriptor} (hm : m ∈ s.messages)
    (plain : m.isMapEntry = false) (h : m.exportScope.Holds t) : s.Holds t := by
  cases h with
  | self => exact .message (.top hm plain)
  | message visible => exact .message ((Visible.top hm plain).trans visible)

theorem holds_iff {s t : ExportScope} :
    s.Holds t ↔ t = s ∨ ∃ m ∈ s.messages, m.isMapEntry = false ∧ m.exportScope.Holds t := by
  constructor
  · rintro (_ | visible)
    · exact .inl rfl
    · obtain ⟨m, hm, plain, rfl | inside⟩ := visible.outermost
      · exact .inr ⟨_, hm, plain, .self⟩
      · exact .inr ⟨m, hm, plain, .message inside⟩
  · rintro (rfl | ⟨m, hm, plain, h⟩)
    · exact .self
    · exact h.inner hm plain

end ExportScope

namespace Export

theorem name_ofEnum (path : List String) (e : EnumDescriptor) :
    (ofEnum path e).name = pathName (path ++ [e.name]) :=
  rfl

theorem name_ofExtension (path : List String) (f : FieldDescriptor) :
    (ofExtension path f).name = pathName (path ++ [fieldName f.name]) :=
  rfl

theorem name_ofOneofs (path : List String) (m : MessageDescriptor) :
    (ofOneofs path m).map name = m.caseNames.map fun s => pathName (path ++ [s]) := by
  rw [ofOneofs, MessageDescriptor.caseNames, List.map_flatMap, List.map_flatMap]
  refine List.flatMap_congr fun ⟨o, i⟩ _ => ?_
  dsimp only
  split
  · rfl
  · rfl

end Export

theorem MessageDescriptor.exports_names {m : MessageDescriptor} (h : m.isMapEntry = false)
    (path : List String) : (m.exports path).map Export.name =
      Export.pathName (path ++ [m.name]) :: m.exportScope.names (path ++ [m.name]) := by
  rw [exports_eq h, exportsAll_eq, ExportScope.names, exportScope]
  simp only [List.map_cons, List.map_append, List.map_flatMap, Export.name_ofOneofs, List.map_map,
    Function.comp_def, Export.name_ofEnum, Export.name_ofExtension, ← List.append_assoc]
  rfl

theorem FileDescriptor.exports_names (f : FileDescriptor) :
    f.exports.map Export.name = f.exportScope.names [] := by
  rw [exports, MessageDescriptor.exportsAll_eq, ExportScope.names, exportScope]
  simp only [List.map_append, List.map_flatMap, List.map_map, Function.comp_def,
    Export.name_ofEnum, Export.name_ofExtension, ← List.append_assoc]

end FlowSchema
