import FlowSchema.Descriptor.MapEntry
import FlowSchema.Text.Words

namespace FlowSchema

namespace FieldDescriptor

def withTypeName (f : FieldDescriptor) (typeName : String) : FieldDescriptor :=
  { f with typeName? := some typeName }

def withExtendee (f : FieldDescriptor) (extendee : String) : FieldDescriptor :=
  { f with extendee? := some extendee }

def withLabel (f : FieldDescriptor) (l : Label) : FieldDescriptor :=
  { f with label? := some l.code }

def withOneofIndex (f : FieldDescriptor) (i : Int32) : FieldDescriptor :=
  { f with oneofIndex? := some i }

def withJsType (f : FieldDescriptor) (t : JsType) : FieldDescriptor :=
  { f with options? := some { jsType? := some t.code } }

def asProto3Optional (f : FieldDescriptor) : FieldDescriptor :=
  { f with proto3Optional? := some true }

end FieldDescriptor

def EnumDescriptor.ofValues (name : String) (values : List (String × Int32)) : EnumDescriptor where
  name? := some name
  values := values.map fun v => ⟨some v.1, some v.2⟩

/-- A map field whose entry is not written yet: the field is known by its index among the fields of
its message. -/
structure MapDraft where
  index : Nat
  entry : String
  sides : MapSides

/-- A message as its author writes it. The drafts that are nested in it and its map fields are not
worked into `message` before it is built. -/
structure MessageDraft where
  message : MessageDescriptor
  nested : List MessageDraft := []
  maps : List MapDraft := []

namespace MapDraft

def entryName (name : String) : String := String.ofList (Text.upperCamel name.toList) ++ "Entry"

def blank (name : String) (number : Int32) : FieldDescriptor :=
  (FieldDescriptor.ofType name number .message).withLabel .repeated

def settle? (path : String) (m : MessageDescriptor) (x : MapDraft) : Option MessageDescriptor := do
  let f ← m.fields[x.index]?
  return { m with
    fields := m.fields.set x.index (f.withTypeName (path ++ "." ++ x.entry))
    nested := m.nested ++ [x.sides.entry x.entry] }

end MapDraft

namespace MessageDraft

def named (name : String) : MessageDraft := { message := { name? := some name } }

def ofMessage (m : MessageDescriptor) : MessageDraft := { message := m }

def addField (d : MessageDraft) (f : FieldDescriptor) : MessageDraft :=
  { d with message := { d.message with fields := d.message.fields ++ [f] } }

def addMapField (d : MessageDraft) (name : String) (number : Int32) (sides : MapSides) :
    MessageDraft :=
  { d with
    message := { d.message with fields := d.message.fields ++ [MapDraft.blank name number] }
    maps := d.maps ++ [⟨d.message.fields.length, MapDraft.entryName name, sides⟩] }

def addDraft (d nested : MessageDraft) : MessageDraft := { d with nested := d.nested ++ [nested] }

def addMessage (d : MessageDraft) (m : MessageDescriptor) : MessageDraft :=
  { d with message := { d.message with nested := d.message.nested ++ [m] } }

def addEnum (d : MessageDraft) (e : EnumDescriptor) : MessageDraft :=
  { d with message := { d.message with enums := d.message.enums ++ [e] } }

def addOneof (d : MessageDraft) (name : String) : MessageDraft :=
  { d with message := { d.message with oneofs := d.message.oneofs ++ [{ name? := some name }] } }

def addExtension (d : MessageDraft) (f : FieldDescriptor) : MessageDraft :=
  { d with message := { d.message with extensions := d.message.extensions ++ [f] } }

mutual

/-- The finished message, if no index of a map field is outside of the fields. Complete messages
come first among the nested ones, then drafts, then the entries of map fields. -/
def build? (scope : String) : MessageDraft → Option MessageDescriptor
  | { message, nested, maps } => do
    let path := scope ++ "." ++ message.name
    let inner ← buildAll? path nested
    maps.foldlM (MapDraft.settle? path) { message with nested := message.nested ++ inner }

def buildAll? (scope : String) : List MessageDraft → Option (List MessageDescriptor)
  | [] => some []
  | d :: ds => do
    let m ← d.build? scope
    let ms ← buildAll? scope ds
    return m :: ms

end

def build (scope : String) (d : MessageDraft) : MessageDescriptor := (d.build? scope).getD d.message

end MessageDraft

structure FileDraft where
  file : FileDescriptor
  messages : List MessageDraft := []

namespace FileDraft

def given (s : String) : Option String := if s = "" then none else some s

def named (name package dialect : String) : FileDraft where
  file := { name? := some name, package? := given package, dialect? := given dialect }

def addDependency (d : FileDraft) (path : String) : FileDraft :=
  { d with file := { d.file with dependencies := d.file.dependencies ++ [path] } }

def addDraft (d : FileDraft) (m : MessageDraft) : FileDraft :=
  { d with messages := d.messages ++ [m] }

def addMessage (d : FileDraft) (m : MessageDescriptor) : FileDraft := d.addDraft (.ofMessage m)

def addEnum (d : FileDraft) (e : EnumDescriptor) : FileDraft :=
  { d with file := { d.file with enums := d.file.enums ++ [e] } }

def addExtension (d : FileDraft) (f : FieldDescriptor) : FileDraft :=
  { d with file := { d.file with extensions := d.file.extensions ++ [f] } }

def scope (d : FileDraft) : String := if d.file.package = "" then "" else "." ++ d.file.package

def build? (d : FileDraft) : Option FileDescriptor := do
  let messages ← MessageDraft.buildAll? d.scope d.messages
  return { d.file with messages }

def build (d : FileDraft) : FileDescriptor := d.build?.getD d.file

end FileDraft

end FlowSchema
