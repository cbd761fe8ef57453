import FlowSchema.Descriptor

namespace FlowSchema

structure MapSide where
  type : FieldType
  typeName? : Option String := none
deriving DecidableEq

def MapSide.ofField (f : FieldDescriptor) : MapSide := ⟨f.type, f.typeName?⟩

structure MapSides where
  key : MapSide
  value : MapSide
deriving DecidableEq

def MessageDescriptor.mapSides? (m : MessageDescriptor) : Option MapSides :=
  if m.isMapEntry then
    match m.fields.find? (·.name = "key"), m.fields.find? (·.name = "value") with
    | some key, some value => some ⟨.ofField key, .ofField value⟩
    | _, _ => none
  else none

def FieldDescriptor.ofType (name : String) (number : Int32) (type : FieldType) :
    FieldDescriptor where
  name? := some name
  number? := some number
  label? := some Label.optional.code
  type? := some type.code

def MapSide.field (s : MapSide) (name : String) (number : Int32) : FieldDescriptor :=
  { FieldDescriptor.ofType name number s.type with typeName? := s.typeName? }

def MapSides.entry (s : MapSides) (name : String) : MessageDescriptor where
  name? := some name
  fields := [s.key.field "key" 1, s.value.field "value" 2]
  options? := some { mapEntry? := some true }

@[simp] theorem MapSide.name_field (s : MapSide) (name : String) (number : Int32) :
    (s.field name number).name = name := rfl

@[simp] theorem MapSide.ofField_field (s : MapSide) (name : String) (number : Int32) :
    ofField (s.field name number) = s := by
  simp [ofField, field, FieldDescriptor.ofType, FieldDescriptor.type, FieldType.ofCode?_code]

theorem MapSides.mapSides?_entry (s : MapSides) (name : String) :
    (s.entry name).mapSides? = some s := by
  simp [MessageDescriptor.mapSides?, MessageDescriptor.isMapEntry, entry]

end FlowSchema
