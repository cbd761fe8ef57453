namespace FlowSchema.SourcePath

def stem (path : String) : List Char :=
  (".proto".toList.isSuffixOf? path.toList).getD path.toList

def moduleAlias (path : String) : String :=
  String.ofList ((stem path).map fun c => if c = '/' ∨ c = '.' ∨ c = '-' then '_' else c) ++ "_pb"

def importName (path : String) : String := String.ofList (stem path) ++ "_pb"

def outputName (path : String) : String := String.ofList (stem path) ++ "_pb.js"

def toRoot (path : String) : String :=
  match path.toList.count '/' with
  | 0 => "./"
  | depth => String.join (List.replicate depth "../")

end FlowSchema.SourcePath
