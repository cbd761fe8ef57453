import FlowSchema.Declarations
import FlowSchema.Imports

namespace FlowSchema

def FlowModule.ofFile (o : Options) (r : Registry) (f : FileDescriptor) : Traced FlowModule := do
  let dialect ← Dialect.ofFile f
  Traced.record (.file f.name f.package dialect)
  let imports ← Import.ofDependencies o f.name f.dependencies
  let declarations ← FileScope.fileDeclarations ⟨r, f.name, dialect⟩ f
  return ⟨f.package, f.name, imports, declarations⟩

structure Output where
  name : String
  content : String
deriving DecidableEq

/-- Of two files with one name the later one is meant. -/
def findFile (files : List FileDescriptor) (name : String) : Except Failure FileDescriptor :=
  match files.findRev? (·.name = name) with
  | some f => .ok f
  | none => .error (.unknownFile name)

def generateFile (o : Options) (r : Registry) (files : List FileDescriptor) (name : String) :
    Traced Output := do
  let f ← findFile files name
  let m ← FlowModule.ofFile o r f
  return ⟨SourcePath.outputName name, m.render o.exactObjects⟩

def generate (o : Options) (files : List FileDescriptor) (requested : List String) :
    Traced (List Output) := do
  let r ← Registry.empty.addAll files
  requested.mapM (generateFile o r files)

end FlowSchema
