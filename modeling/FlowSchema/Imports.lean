import FlowSchema.FlowModule
import FlowSchema.Options
import FlowSchema.SourcePath

namespace FlowSchema

namespace Import

def isWellKnown (path : String) : Bool := "google/protobuf/".toList.isPrefixOf path.toList

def ofDependency (o : Options) (file dependency : String) : Import where
  moduleAlias := SourcePath.moduleAlias dependency
  specifier :=
    (if isWellKnown dependency then o.wellKnownRoot ++ "/" else SourcePath.toRoot file)
      ++ SourcePath.importName dependency

def checkAliases (seen : List String) : List String → Except Failure Unit
  | [] => .ok ()
  | d :: ds =>
    match seen.find? (SourcePath.moduleAlias · = SourcePath.moduleAlias d) with
    | some first => .error (.aliasCollision (SourcePath.moduleAlias d) first d)
    | none => checkAliases (seen ++ [d]) ds

def ofDependencies (o : Options) (file : String) (dependencies : List String) :
    Except Failure (List Import) := do
  checkAliases [] dependencies
  return dependencies.map (ofDependency o file)

end Import

end FlowSchema
