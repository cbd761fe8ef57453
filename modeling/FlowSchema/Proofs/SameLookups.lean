import FlowSchema.Proofs.Alike

namespace FlowSchema

structure Registry.SameLookups (r r' : Registry) : Prop where
  message : ∀ n, r.message? n = r'.message? n
  enum : ∀ n, r.enum? n = r'.enum? n

theorem MapSide.Alike.refl (a : MapSide) : a.Alike a := ⟨rfl, rfl⟩

theorem MessageEntry.Alike.refl (e : MessageEntry) : e.Alike e where
  file := rfl
  package := rfl
  isMapEntry := rfl
  sides := by
    cases e.mapSides? with
    | none => exact .none
    | some sides => exact .some ⟨.refl sides.key, .refl sides.value⟩

theorem FieldDescriptor.Alike.refl (f : FieldDescriptor) : f.Alike f :=
  ⟨rfl, rfl, rfl, fun _ => rfl, rfl, rfl⟩

theorem FieldDescriptor.AlikeExtension.refl (f : FieldDescriptor) : f.AlikeExtension f :=
  { FieldDescriptor.Alike.refl f with number := rfl, extendee := rfl }

namespace Registry.SameLookups

variable {r r' : Registry} (h : r.SameLookups r')
include h

theorem alike : r.Alike r' where
  message n := by
    rw [h.message]
    cases r'.message? n with
    | none => exact .none
    | some e => exact .some (.refl e)
  enum := h.enum

variable (file : String) (dialect : Dialect)

theorem property_eq :
    FileScope.property ⟨r, file, dialect⟩ = FileScope.property ⟨r', file, dialect⟩ := by
  funext f
  exact FileScope.property_alike h.alike file dialect (.refl f)

theorem extension_eq :
    FileScope.extension ⟨r, file, dialect⟩ = FileScope.extension ⟨r', file, dialect⟩ := by
  funext outer f
  exact FileScope.extension_alike h.alike file dialect (.refl f) outer

theorem rendersAlike : FileScope.RendersAlike ⟨r', file, dialect⟩ ⟨r, file, dialect⟩ id where
  name _ := rfl
  isMapEntry _ := rfl
  nested m := (List.map_id m.nested).symm
  enums _ := rfl
  properties m _ := by rw [h.property_eq, id]
  oneofs _ _ _ := rfl
  extensions m _ outer := by rw [h.extension_eq, id]

theorem fileDeclarations_eq (f : FileDescriptor) :
    FileScope.fileDeclarations ⟨r, file, dialect⟩ f =
      FileScope.fileDeclarations ⟨r', file, dialect⟩ f := by
  refine (h.rendersAlike file dialect).fileDeclarations_eq (List.map_id _).symm ?_ rfl
  rw [h.extension_eq]

end Registry.SameLookups

theorem FlowModule.ofFile_congr {r r' : Registry} (h : r.SameLookups r') (o : Options)
    (f : FileDescriptor) : ofFile o r f = ofFile o r' f := by
  simp only [ofFile, h.fileDeclarations_eq]

end FlowSchema
