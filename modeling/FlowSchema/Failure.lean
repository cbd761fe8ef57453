namespace FlowSchema

inductive Failure
  | unknownMessage (name : String)
  | unknownEnum (name : String)
  | malformedMapEntry (name : String)
  | unknownDialect (file dialect : String)
  | unknownFile (name : String)
  | aliasCollision (moduleAlias first second : String)
  | invalidParameter (option : String)
deriving DecidableEq

def Failure.message : Failure → String
  | .unknownMessage name => "no message export for: " ++ name
  | .unknownEnum name => "no enum export for: " ++ name
  | .malformedMapEntry name => "malformed map entry: " ++ name
  | .unknownDialect file dialect => "unknown syntax `" ++ dialect ++ "` in " ++ file
  | .unknownFile name => "file to generate not found in request: " ++ name
  | .aliasCollision moduleAlias first second =>
    "import namespace `" ++ moduleAlias ++ "` is derived from both " ++ first ++ " and " ++ second
  | .invalidParameter option => "invalid plugin parameter: " ++ option

end FlowSchema
