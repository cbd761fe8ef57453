import FlowSchema.Declaration
import FlowSchema.Identifier
import FlowSchema.Resolution

namespace FlowSchema

open Identifier Traced

def EnumDescriptor.declaration (outer : String) (e : EnumDescriptor) : Traced Declaration := do
  record (.enumeration e.name)
  return .table (nested outer e.name) (e.values.map fun v => (v.name, v.number))

def OneofDescriptor.isSynthetic (members : List FieldDescriptor) : Bool :=
  !members.isEmpty && members.all (·.proto3Optional)

def OneofDescriptor.declarations (outer : String) (o : OneofDescriptor)
    (members : List FieldDescriptor) : Traced (List Declaration) := do
  if isSynthetic members then return []
  record (.oneof o.name members.length)
  return [.table (nested outer (oneofName o.name ++ "Case"))
    ((constantName o.name ++ "_NOT_SET", 0)
      :: members.map fun f => (constantName f.name, f.number))]

def MessageDescriptor.oneofDeclarations (outer : String) (m : MessageDescriptor) :
    Traced (List Declaration) := do
  let tables ← m.oneofs.zipIdx.mapM fun (o, i) => o.declarations outer (m.members i)
  return tables.flatten

namespace FileScope

def mapProperty (s : FileScope) (f : FieldDescriptor) (sides : MapSides) : Traced Property := do
  let key ← s.sideType sides.key
  let value ← s.sideType sides.value
  record (.mapField f.name key value)
  return ⟨fieldName f.name, false, .array (.pair key value)⟩

def plainProperty (s : FileScope) (f : FieldDescriptor) : Traced Property := do
  let type ← s.fieldType f
  record (.field f.name type (f.isOptional s.dialect))
  return ⟨fieldName f.name, f.isOptional s.dialect, type.repeatedIf f.isRepeated⟩

def property (s : FileScope) (f : FieldDescriptor) : Traced Property := do
  match ← s.mapSides? f with
  | some sides => s.mapProperty f sides
  | none => s.plainProperty f

def extension (s : FileScope) (outer : String) (f : FieldDescriptor) : Traced Declaration := do
  record (.extension f.name)
  let type ← s.fieldType f
  return .object (nested outer (fieldName f.name))
    [⟨"fieldNumber", false, .numberLiteral f.number⟩,
      ⟨"extendee", false, .textLiteral (QualifiedName.ofTypeName f.extendee).bare⟩,
      ⟨"value", f.isOptional s.dialect, type.repeatedIf f.isRepeated⟩]

mutual

/-- The object type of a message, then its nested messages, enums, oneofs and extensions. A map
entry has no declarations: its sides show where it is repeated. -/
def messageDeclarations (s : FileScope) (outer : String) :
    MessageDescriptor → Traced (List Declaration)
  | m@{ nested := inner, .. } => do
    record (.message m.name)
    if m.isMapEntry then return []
    let name := nested outer m.name
    let properties ← m.fields.mapM s.property
    let messages ← s.messagesDeclarations name inner
    let enums ← m.enums.mapM (·.declaration name)
    let tables ← m.oneofDeclarations name
    let extensions ← m.extensions.mapM (s.extension name)
    return .object name properties :: (messages ++ enums ++ tables ++ extensions)

def messagesDeclarations (s : FileScope) (outer : String) :
    List MessageDescriptor → Traced (List Declaration)
  | [] => return []
  | m :: ms => do
    let first ← s.messageDeclarations outer m
    let rest ← s.messagesDeclarations outer ms
    return first ++ rest

end

def fileDeclarations (s : FileScope) (f : FileDescriptor) : Traced (List Declaration) := do
  let messages ← s.messagesDeclarations "" f.messages
  let extensions ← f.extensions.mapM (s.extension "")
  let enums ← f.enums.mapM (·.declaration "")
  return messages ++ extensions ++ enums

end FileScope

end FlowSchema
