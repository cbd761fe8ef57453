import FlowSchema.Failure
import FlowSchema.Unicode.WhiteSpace

namespace FlowSchema

structure Options where
  exactObjects : Bool := false
  /-- What the imports of `google/protobuf/` start with. -/
  wellKnownRoot : String := "google-protobuf"
deriving DecidableEq

inductive Setting
  | exactObjects (enabled : Bool)
  | wellKnownRoot (root : String)
deriving DecidableEq

def Setting.ofText? (text : String) : Option Setting :=
  match text with
  | "exact_objects" => some (.exactObjects true)
  | "exact_objects=true" => some (.exactObjects true)
  | "exact_objects=false" => some (.exactObjects false)
  | _ => match "well_known_root=".toList.isPrefixOf? text.toList with
    | some (c :: root) => some (.wellKnownRoot (String.ofList (c :: root)))
    | _ => none

namespace Options

def setExactObjects (o : Options) (enabled : Bool) : Options := { o with exactObjects := enabled }

def setWellKnownRoot (o : Options) (root : String) : Options :=
  { o with
    wellKnownRoot := String.ofList (root.toList.reverse.dropWhile (· = '/')).reverse }

def apply (o : Options) : Setting → Options
  | .exactObjects enabled => o.setExactObjects enabled
  | .wellKnownRoot root => o.setWellKnownRoot root

def trim (s : List Char) : List Char :=
  ((s.dropWhile Unicode.isWhiteSpace).reverse.dropWhile Unicode.isWhiteSpace).reverse

def pieces (parameter : String) : List String :=
  (((parameter.toList.splitOn ',').map trim).filter (· ≠ [])).map String.ofList

def parse (parameter : String) : Except Failure Options := do
  let settings ← (pieces parameter).mapM fun piece =>
    match Setting.ofText? piece with
    | some setting => .ok setting
    | none => .error (.invalidParameter piece)
  return settings.foldl apply {}

end Options

end FlowSchema
