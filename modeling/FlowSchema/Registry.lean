import FlowSchema.Descriptor.MapEntry
import FlowSchema.QualifiedName
import FlowSchema.Traced

namespace FlowSchema

mutual

def MessageDescriptor.declared (scope : QualifiedName) :
    MessageDescriptor → List (QualifiedName × MessageDescriptor)
  | m@{ nested, .. } =>
    declaredAll (scope.join m.name) nested ++ [(scope.join m.name, m)]

def MessageDescriptor.declaredAll (scope : QualifiedName) :
    List MessageDescriptor → List (QualifiedName × MessageDescriptor)
  | [] => []
  | m :: ms => m.declared scope ++ declaredAll scope ms

end

def EnumDescriptor.declaredAll (scope : QualifiedName) (es : List EnumDescriptor) :
    List (QualifiedName × EnumDescriptor) :=
  es.map fun e => (scope.join e.name, e)

namespace FileDescriptor

def scope (f : FileDescriptor) : QualifiedName := QualifiedName.ofPackage f.package

def declaredMessages (f : FileDescriptor) : List (QualifiedName × MessageDescriptor) :=
  MessageDescriptor.declaredAll f.scope f.messages

def declaredEnums (f : FileDescriptor) : List (QualifiedName × EnumDescriptor) :=
  f.declaredMessages.flatMap (fun d => EnumDescriptor.declaredAll d.1 d.2.enums)
    ++ EnumDescriptor.declaredAll f.scope f.enums

end FileDescriptor

structure MessageEntry where
  file : String
  package : String
  isMapEntry : Bool
  mapSides? : Option MapSides
deriving DecidableEq

structure EnumEntry where
  file : String
  package : String
deriving DecidableEq

/-- Where each message and each enum is declared, the latest declaration first. A name that is
declared twice stands for its last declaration. -/
structure Registry where
  messages : List (QualifiedName × MessageEntry)
  enums : List (QualifiedName × EnumEntry)
deriving DecidableEq

namespace Registry

def empty : Registry := ⟨[], []⟩

def messageEntries (f : FileDescriptor) : List (QualifiedName × MessageEntry) :=
  f.declaredMessages.map fun d => (d.1, ⟨f.name, f.package, d.2.isMapEntry, d.2.mapSides?⟩)

def enumEntries (f : FileDescriptor) : List (QualifiedName × EnumEntry) :=
  f.declaredEnums.map fun d => (d.1, ⟨f.name, f.package⟩)

def insert (r : Registry) (f : FileDescriptor) : Registry :=
  ⟨(messageEntries f).reverse ++ r.messages, (enumEntries f).reverse ++ r.enums⟩

def ofFiles (files : List FileDescriptor) : Registry := files.foldl insert empty

def message? (r : Registry) (n : QualifiedName) : Option MessageEntry := r.messages.lookup n

def enum? (r : Registry) (n : QualifiedName) : Option EnumEntry := r.enums.lookup n

theorem message?_insert (r : Registry) (f : FileDescriptor) (n : QualifiedName) :
    (r.insert f).message? n = ((messageEntries f).reverse.lookup n).or (r.message? n) :=
  List.lookup_append

theorem enum?_insert (r : Registry) (f : FileDescriptor) (n : QualifiedName) :
    (r.insert f).enum? n = ((enumEntries f).reverse.lookup n).or (r.enum? n) :=
  List.lookup_append

def add (r : Registry) (f : FileDescriptor) : Traced Registry := do
  Traced.record (.exports f.name)
  return r.insert f

def addAll (r : Registry) (files : List FileDescriptor) : Traced Registry := files.foldlM add r

end Registry

end FlowSchema
