import FlowSchema.Wire.Field
import FlowSchema.Wire.Schema

namespace FlowSchema.Wire

def fail {α : Type} (c : Cause) : Except DecodeError α := .error { cause := c }

def readVarint (i : Input) : Except DecodeError (Nat × Input) :=
  match Varint.read i with
  | some r => .ok r
  | none => fail .varint

def readBytes (n : Nat) (i : Input) : Except DecodeError (List UInt8 × Input) :=
  match i.take? n with
  | some r => .ok r
  | none => fail .underflow

def readSized (i : Input) : Except DecodeError (List UInt8 × Input) := do
  let (size, rest) ← readVarint i
  readBytes size rest

structure Key where
  number : Nat
  wireType : WireType
deriving DecidableEq

def readKey (i : Input) : Except DecodeError (Key × Input) := do
  let (key, rest) ← readVarint i
  if UInt32.size ≤ key then fail (.key key)
  else match WireType.ofCode? (key % 8) with
    | none => fail (.wireCode (key % 8))
    | some t => if key / 8 = 0 then fail .zeroTag else return (⟨key / 8, t⟩, rest)

/-- Passes over fields up to the end of a group. A field takes a byte at least, so that the bytes
themselves are `fuel` enough. -/
def skipGroup (skipField : Key → Input → Except DecodeError Input) (number : Nat) :
    (fuel : Nat) → Input → Except DecodeError Input
  | 0, _ => fail .varint
  | fuel + 1, i => do
    let (key, rest) ← readKey i
    if key.wireType = .endGroup then
      if key.number = number then return rest else fail .endGroup
    else
      let rest ← skipField key rest
      skipGroup skipField number fuel rest

def skip : (budget : Nat) → Key → Input → Except DecodeError Input
  | 0, _, _ => fail .recursionLimit
  | budget + 1, key, i =>
    match key.wireType with
    | .varint => Prod.snd <$> readVarint i
    | .sixtyFourBit => Prod.snd <$> readBytes 8 i
    | .thirtyTwoBit => Prod.snd <$> readBytes 4 i
    | .lengthDelimited => Prod.snd <$> readSized i
    | .startGroup => skipGroup (skip budget) key.number i.size i
    | .endGroup => fail .endGroup

abbrev Step (α : Type) := Input → Except DecodeError (Option α × Input)

section

variable {α : Type}

/-- Takes steps until at most `stop` bytes are left. Here too the bytes are `fuel` enough. -/
def readUntil (stop : Nat) (step : Step α) :
    (fuel : Nat) → Input → Except DecodeError (List α × Input)
  | 0, i => return ([], i)
  | fuel + 1, i =>
    if i.size ≤ stop then return ([], i)
    else do
      let (part?, rest) ← step i
      let (parts, rest) ← readUntil stop step fuel rest
      return (part?.toList ++ parts, rest)

/-- The parts that their length stands in front of. They may run past its end, which is noticed only
behind the last of them. -/
def readDelimited (step : Step α) (i : Input) : Except DecodeError (List α × Input) := do
  let (size, rest) ← readVarint i
  if rest.size < size then fail .underflow
  else
    let stop := rest.size - size
    let (parts, rest) ← readUntil stop step rest.size rest
    if rest.size = stop then return (parts, rest) else fail .lengthExceeded

end

def readNumber : Step Nat := fun i => do
  let (value, rest) ← readVarint i
  return (some value, rest)

def readText (i : Input) : Except DecodeError (String × Input) := do
  let (bytes, rest) ← readSized i
  match String.fromUTF8? ⟨bytes.toArray⟩ with
  | some s => return (s, rest)
  | none => fail .notUtf8

def expect (expected actual : WireType) : Except DecodeError Unit :=
  if actual = expected then .ok () else fail (.wireType actual expected)

def readSingle (key : Key) (i : Input) : Except DecodeError (Field × Input) := do
  expect .varint key.wireType
  let (value, rest) ← readVarint i
  return (.varint key.number value, rest)

def readMember (inner? : Option (MessageType → Step Field)) (kind : Kind) (key : Key) (i : Input) :
    Except DecodeError (Field × Input) :=
  match kind with
  | .varint => readSingle key i
  | .varints =>
    if key.wireType = .lengthDelimited then do
      let (values, rest) ← readDelimited readNumber i
      return (.packed key.number values, rest)
    else readSingle key i
  | .double => do
    expect .sixtyFourBit key.wireType
    let (raw, rest) ← readBytes 8 i
    return (.double key.number raw, rest)
  | .bytes => do
    expect .lengthDelimited key.wireType
    let (value, rest) ← readSized i
    return (.bytes key.number value, rest)
  | .text => do
    expect .lengthDelimited key.wireType
    let (value, rest) ← readText i
    return (.text key.number value, rest)
  | .message t => do
    expect .lengthDelimited key.wireType
    match inner? with
    | none => fail .recursionLimit
    | some inner =>
      let (fields, rest) ← readDelimited (inner t) i
      return (.message key.number fields, rest)

def readFieldWith (budget : Nat) (inner? : Option (MessageType → Step Field)) (t : MessageType) :
    Step Field := fun i => do
  let (key, rest) ← readKey i
  match t.member? key.number with
  | none =>
    let rest ← skip budget key rest
    return (none, rest)
  | some member =>
    let (field, rest) ←
      (readMember inner? member.kind key rest).mapError (·.inside t.name member.name)
    return (some field, rest)

def readField : (budget : Nat) → MessageType → Step Field
  | 0 => readFieldWith 0 none
  | budget + 1 => readFieldWith (budget + 1) (some (readField budget))

def nestingLimit : Nat := 100

def decode (t : MessageType) (bytes : List UInt8) : Except DecodeError (List Field) :=
  Prod.fst <$> readUntil 0 (readField nestingLimit t) bytes.length (.ofBytes bytes)

end FlowSchema.Wire
