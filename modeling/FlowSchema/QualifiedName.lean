namespace FlowSchema

/-- A dotted name that starts at the root, as `.shop.Order.Line`. -/
structure QualifiedName where
  text : String
deriving DecidableEq

namespace QualifiedName

def isDot (c : Char) : Bool := c = '.'

def trimDots (s : List Char) : List Char := ((s.dropWhile isDot).reverse.dropWhile isDot).reverse

def ofParts (package : String) (path : List String) (name : String) : QualifiedName :=
  ⟨(if package = "" then "" else ".") ++ String.ofList (trimDots package.toList)
    ++ (if path = [] then "" else ".")
    ++ ".".intercalate (path.map fun s => String.ofList (s.toList.dropWhile isDot))
    ++ (if name = "" then "" else ".") ++ name⟩

def ofTypeName (typeName : String) : QualifiedName := ofParts "" [typeName] ""

/-- The scope of what a file declares at its top. It is empty, without a dot, in a file that has no
package. -/
def ofPackage (package : String) : QualifiedName := ofParts package [] ""

def join (n : QualifiedName) (part : String) : QualifiedName := ⟨n.text ++ "." ++ part⟩

def bare (n : QualifiedName) : String :=
  match n.text.toList with
  | '.' :: rest => String.ofList rest
  | _ => n.text

/-- The name as seen from inside a package, flattened to one identifier. A name outside the package
keeps all its parts. -/
def within (n : QualifiedName) (package : String) : String :=
  let inner := match trimDots package.toList with
    | [] => n.bare.toList
    | scope => ((scope ++ ['.']).isPrefixOf? n.bare.toList).getD n.bare.toList
  String.ofList (inner.map fun c => if c = '.' then '_' else c)

def insertSorted (n : QualifiedName) : List QualifiedName → List QualifiedName
  | [] => [n]
  | m :: ms =>
    if n.text < m.text then n :: m :: ms
    else if n = m then m :: ms
    else m :: insertSorted n ms

def sorted (names : List QualifiedName) : List QualifiedName := names.foldr insertSorted []

end QualifiedName

end FlowSchema
