namespace FlowSchema

structure Reference where
  moduleAlias? : Option String
  name : String
deriving DecidableEq

def Reference.text (r : Reference) : String :=
  match r.moduleAlias? with
  | none => r.name
  | some moduleAlias => moduleAlias ++ "." ++ r.name

inductive FlowType
  | number
  | boolean
  | string
  | bytes
  | object (target : Reference)
  | valuesOf (target : Reference)
  | array (element : FlowType)
  | pair (first second : FlowType)
  | numberLiteral (n : Int32)
  | textLiteral (s : String)
deriving DecidableEq

namespace FlowType

def text : FlowType → String
  | number => "number"
  | boolean => "boolean"
  | string => "string"
  | bytes => "Uint8Array | string"
  | object target => target.text
  | valuesOf target => "$Values<typeof " ++ target.text ++ ">"
  | array element => "Array<" ++ element.text ++ ">"
  | pair first second => "[" ++ first.text ++ ", " ++ second.text ++ "]"
  | numberLiteral n => n.toInt.repr
  | textLiteral s => "\"" ++ s ++ "\""

theorem text_valuesOf (target : Reference) :
    (valuesOf target).text = "$Values<typeof " ++ target.text ++ ">" := rfl

theorem text_array (element : FlowType) : (array element).text = "Array<" ++ element.text ++ ">" :=
  rfl

theorem text_pair (first second : FlowType) :
    (pair first second).text = "[" ++ first.text ++ ", " ++ second.text ++ "]" := rfl

theorem text_textLiteral (s : String) : (textLiteral s).text = "\"" ++ s ++ "\"" := rfl

def repeatedIf (isRepeated : Bool) (t : FlowType) : FlowType := if isRepeated then array t else t

end FlowType

end FlowSchema
