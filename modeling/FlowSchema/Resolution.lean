import FlowSchema.Registry
import FlowSchema.SourcePath

namespace FlowSchema

structure FileScope where
  registry : Registry
  file : String
  dialect : Dialect

namespace FileScope

def reference (s : FileScope) (file package : String) (n : QualifiedName) : Reference where
  moduleAlias? := if file = s.file then none else some (SourcePath.moduleAlias file)
  name := n.within package

def messageEntry (s : FileScope) (n : QualifiedName) : Except Failure MessageEntry :=
  match s.registry.message? n with
  | some entry => .ok entry
  | none => .error (.unknownMessage n.bare)

def enumEntry (s : FileScope) (n : QualifiedName) : Except Failure EnumEntry :=
  match s.registry.enum? n with
  | some entry => .ok entry
  | none => .error (.unknownEnum n.bare)

def messageReference (s : FileScope) (typeName : String) : Except Failure Reference := do
  let n := QualifiedName.ofTypeName typeName
  let entry ← s.messageEntry n
  return s.reference entry.file entry.package n

def enumReference (s : FileScope) (typeName : String) : Except Failure Reference := do
  let n := QualifiedName.ofTypeName typeName
  let entry ← s.enumEntry n
  return s.reference entry.file entry.package n

def resolve (s : FileScope) (t : FieldType) (typeName? : Option String) : Except Failure FlowType :=
  match t with
  | .message | .group => FlowType.object <$> s.messageReference (typeName?.getD "")
  | .enum => FlowType.valuesOf <$> s.enumReference (typeName?.getD "")
  | .bool => .ok .boolean
  | .string => .ok .string
  | .bytes => .ok .bytes
  | .double | .float | .int64 | .uint64 | .int32 | .fixed64 | .fixed32 | .uint32 | .sfixed32
  | .sfixed64 | .sint32 | .sint64 => .ok .number

def fieldType (s : FileScope) (f : FieldDescriptor) : Except Failure FlowType :=
  match f.type.isInteger, f.jsType with
  | true, .number => .ok .number
  | true, .string => .ok .string
  | _, _ => s.resolve f.type f.typeName?

def mapSides? (s : FileScope) (f : FieldDescriptor) : Except Failure (Option MapSides) :=
  if f.isRepeated && f.type = .message then do
    let n := QualifiedName.ofTypeName f.typeName
    let entry ← s.messageEntry n
    match entry.isMapEntry, entry.mapSides? with
    | false, _ => return none
    | true, some sides => return some sides
    | true, none => throw (.malformedMapEntry n.bare)
  else return none

def sideType (s : FileScope) (side : MapSide) : Except Failure FlowType :=
  s.resolve side.type side.typeName?

end FileScope

end FlowSchema
