import FlowSchema.FlowType
import FlowSchema.Layout

namespace FlowSchema

structure Property where
  key : String
  isOptional : Bool
  type : FlowType
deriving DecidableEq

def Property.text (p : Property) : String :=
  p.key ++ (if p.isOptional then "?" else "") ++ ": " ++ p.type.text ++ ","

inductive Declaration
  | object (name : String) (properties : List Property)
  | table (name : String) (constants : List (String × Int32))
deriving DecidableEq

namespace Declaration

open Layout

def name : Declaration → String
  | object name _ => name
  | table name _ => name

def heading (exact : Bool) : Declaration → String
  | object name _ => "export type " ++ name ++ " = " ++ (if exact then "\x7b|" else "\x7b")
  | table name _ => "export const " ++ name ++ " = Object.freeze(\x7b"

def body : Declaration → List String
  | object _ properties => properties.map Property.text
  | table _ constants => constants.map fun c => c.1 ++ ": " ++ c.2.toInt.repr ++ ","

def closing (exact : Bool) : Declaration → String
  | object .. => if exact then "|\x7d" else "\x7d"
  | table .. => "\x7d);"

def layout (exact : Bool) (d : Declaration) : List Piece :=
  .line (d.heading exact) :: d.body.map .inner ++ [.line (d.closing exact), .blank]

end Declaration

end FlowSchema
