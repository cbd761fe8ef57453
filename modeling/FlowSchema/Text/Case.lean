import FlowSchema.Unicode.CaseIgnorable
import FlowSchema.Unicode.LowerMapping
import FlowSchema.Unicode.Lowercase
import FlowSchema.Unicode.Titlecase
import FlowSchema.Unicode.UpperMapping
import FlowSchema.Unicode.Uppercase

namespace FlowSchema.Text

open Unicode

def isCased (c : Char) : Bool := isLowercase c || isUppercase c || isTitlecase c

/-- Whether the nearest character that is not case-ignorable has case. -/
def startsCased (s : List Char) : Bool := (s.find? fun c => !isCaseIgnorable c).any isCased

/-- The list `before` is the text to the left, nearest character first. A capital sigma becomes
final where it ends a cased run and starts none. -/
def lowerAfter (before : List Char) : List Char → List Char
  | [] => []
  | c :: rest =>
    (if c = 'Σ' then [if startsCased before && !startsCased rest then 'ς' else 'σ']
      else lowerMapping c) ++ lowerAfter (c :: before) rest

def lower (s : List Char) : List Char := lowerAfter [] s

def upper (s : List Char) : List Char := s.flatMap upperMapping

end FlowSchema.Text
