import FlowSchema.Text.Case
import FlowSchema.Unicode.Alphabetic
import FlowSchema.Unicode.Number

namespace FlowSchema.Text

open Unicode

def isWordChar (c : Char) : Bool := isAlphabetic c || isNumber c

/-- The case of the last cased letter since the start of a word. -/
inductive Tone
  | none | low | high
deriving DecidableEq

def Tone.next (t : Tone) (c : Char) : Tone :=
  if isLowercase c then .low else if isUppercase c then .high else t

def joinFirst (c : Char) : List (List Char) → List (List Char)
  | [] => [[c]]
  | w :: ws => (c :: w) :: ws

/-- Cuts a run of word characters after a low letter that a capital follows, and before the last
capital of several when a low letter follows it. -/
def humps (t : Tone) : List Char → List (List Char)
  | [] => []
  | [c] => [[c]]
  | c :: d :: rest =>
    if t.next c = .low ∧ isUppercase d then [c] :: humps .none (d :: rest)
    else if t = .high ∧ isUppercase c ∧ isLowercase d then
      [] :: joinFirst c (humps .none (d :: rest))
    else joinFirst c (humps (t.next c) (d :: rest))

def words (s : List Char) : List (List Char) :=
  ((s.splitOnP (!isWordChar ·)).filter (· ≠ [])).flatMap (humps .none)

/-- Unlike `lower`, this sees one word at a time, and a capital sigma is final only at its end. -/
def lowerWord : List Char → List Char
  | [] => []
  | [c] => if c = 'Σ' then ['ς'] else lowerMapping c
  | c :: d :: rest => lowerMapping c ++ lowerWord (d :: rest)

def capitalize : List Char → List Char
  | [] => []
  | c :: rest => upperMapping c ++ lowerWord rest

def lowerCamel (s : List Char) : List Char :=
  match words s with
  | [] => []
  | w :: ws => lowerWord w ++ ws.flatMap capitalize

def upperCamel (s : List Char) : List Char := (words s).flatMap capitalize

end FlowSchema.Text
