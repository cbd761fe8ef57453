import FlowSchema.Dialect
import FlowSchema.FlowType
import FlowSchema.Options
import FlowSchema.Text.Quoted

namespace FlowSchema

inductive Record
  | options (o : Options)
  | exports (name : String)
  | file (name package : String) (dialect : Dialect)
  | message (name : String)
  | field (name : String) (type : FlowType) (isOptional : Bool)
  | mapField (name : String) (key value : FlowType)
  | enumeration (name : String)
  | oneof (name : String) (members : Nat)
  | extension (name : String)
  | failure (f : Failure)
deriving DecidableEq

namespace Record

open Text

def level : Record → String
  | failure _ => "ERROR"
  | _ => "DEBUG"

def boolText (b : Bool) : String := if b then "true" else "false"

def text : Record → String
  | options o =>
    "config: Config \x7b exact_objects: " ++ boolText o.exactObjects ++ ", well_known_root: "
      ++ quoted o.wellKnownRoot ++ " \x7d"
  | exports name => "exports: " ++ quoted name
  | file name package dialect =>
    "file: " ++ quoted name ++ ", package: " ++ quoted package ++ ", syntax: " ++ dialect.name
  | message name => "  message: " ++ quoted name
  | field name type isOptional =>
    "    field: " ++ quoted name ++ ", type: " ++ quoted type.text ++ ", optional: "
      ++ boolText isOptional
  | mapField name key value =>
    "    map field: " ++ quoted name ++ ", key type: " ++ quoted key.text ++ ", value type: "
      ++ quoted value.text
  | enumeration name => "  enum: " ++ quoted name
  | oneof name members => "    oneof: " ++ quoted name ++ ", fields: " ++ members.repr
  | extension name => "  extension: " ++ quoted name
  | failure f => f.message

end Record

end FlowSchema
