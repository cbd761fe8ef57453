import FlowSchema.Descriptor
import FlowSchema.Failure

namespace FlowSchema

inductive Dialect
  | proto2 | proto3 | edition2023
deriving DecidableEq

namespace Dialect

def ofFile (f : FileDescriptor) : Except Failure Dialect :=
  match f.dialect?.getD "" with
  | "" => .ok proto2
  | "proto2" => .ok proto2
  | "proto3" => .ok proto3
  | "editions" => .ok edition2023
  | other => .error (.unknownDialect f.name other)

def explicitPresence (d : Dialect) : Bool := d ≠ proto3

def name : Dialect → String
  | proto2 => "Proto2"
  | proto3 => "Proto3"
  | edition2023 => "Edition2023"

end Dialect

def FieldDescriptor.hasPresence (f : FieldDescriptor) (d : Dialect) : Bool :=
  !f.isRepeated && (f.oneofIndex?.isSome || f.type.isMessage || d.explicitPresence)

def FieldDescriptor.isOptional (f : FieldDescriptor) (d : Dialect) : Bool :=
  f.hasPresence d && !(d.explicitPresence && f.label = .required && f.type.isMessage)

end FlowSchema
