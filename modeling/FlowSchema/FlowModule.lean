import FlowSchema.Declaration

namespace FlowSchema

structure Import where
  moduleAlias : String
  specifier : String
deriving DecidableEq

def Import.text (i : Import) : String :=
  "import * as " ++ i.moduleAlias ++ " from \"" ++ i.specifier ++ "\";"

structure FlowModule where
  package : String
  file : String
  imports : List Import
  declarations : List Declaration
deriving DecidableEq

namespace FlowModule

open Layout

def header (m : FlowModule) : List Piece :=
  [.line "// @flow", .line ("// package: " ++ m.package), .line ("// file: " ++ m.file), .blank]

def importBlock (m : FlowModule) : List Piece :=
  if m.imports = [] then [] else m.imports.map (fun i => .line i.text) ++ [.blank]

def layout (exact : Bool) (m : FlowModule) : List Piece :=
  m.header ++ m.importBlock ++ m.declarations.flatMap (Declaration.layout exact)

def render (exact : Bool) (m : FlowModule) : String := Layout.render 0 (m.layout exact)

end FlowModule

end FlowSchema
