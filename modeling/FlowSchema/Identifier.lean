import FlowSchema.Text.Words

namespace FlowSchema.Identifier

def reserved : List String :=
  ["abstract", "boolean", "break", "byte", "case", "catch", "char", "class", "const", "continue",
    "debugger", "default", "delete", "do", "double", "else", "enum", "export", "extends", "false",
    "final", "finally", "float", "for", "function", "goto", "if", "implements", "import", "in",
    "instanceof", "int", "interface", "long", "native", "new", "null", "package", "private",
    "protected", "public", "return", "short", "static", "super", "switch", "synchronized", "this",
    "throw", "throws", "transient", "try", "typeof", "var", "void", "volatile", "while", "with"]

def escape (name : String) : String := if name ∈ reserved then "pb_" ++ name else name

def camel (name : String) : String := String.ofList (Text.lowerCamel (Text.lower name.toList))

def fieldName (name : String) : String := escape (camel name)

def oneofName (name : String) : String :=
  String.ofList (Text.upperCamel (Text.lower name.toList))

def constantName (name : String) : String := String.ofList (Text.upper name.toList)

def nested (outer name : String) : String := if outer = "" then name else outer ++ "_" ++ name

end FlowSchema.Identifier
