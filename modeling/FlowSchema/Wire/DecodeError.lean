namespace FlowSchema.Wire

inductive WireType
  | varint | sixtyFourBit | lengthDelimited | startGroup | endGroup | thirtyTwoBit
deriving DecidableEq

namespace WireType

def code : WireType → Nat
  | varint => 0
  | sixtyFourBit => 1
  | lengthDelimited => 2
  | startGroup => 3
  | endGroup => 4
  | thirtyTwoBit => 5

def ofCode? (n : Nat) : Option WireType :=
  [varint, sixtyFourBit, lengthDelimited, startGroup, endGroup, thirtyTwoBit].find? (·.code = n)

def name : WireType → String
  | varint => "Varint"
  | sixtyFourBit => "SixtyFourBit"
  | lengthDelimited => "LengthDelimited"
  | startGroup => "StartGroup"
  | endGroup => "EndGroup"
  | thirtyTwoBit => "ThirtyTwoBit"

end WireType

inductive Cause
  | varint
  | key (value : Nat)
  | wireCode (code : Nat)
  | zeroTag
  | wireType (actual expected : WireType)
  | recursionLimit
  | underflow
  | notUtf8
  | lengthExceeded
  | endGroup
deriving DecidableEq

def Cause.message : Cause → String
  | varint => "invalid varint"
  | key value => "invalid key value: " ++ value.repr
  | wireCode code => "invalid wire type value: " ++ code.repr
  | zeroTag => "invalid tag value: 0"
  | wireType actual expected =>
    "invalid wire type: " ++ actual.name ++ " (expected " ++ expected.name ++ ")"
  | recursionLimit => "recursion limit reached"
  | underflow => "buffer underflow"
  | notUtf8 => "invalid string value: data is not UTF-8 encoded"
  | lengthExceeded => "delimited length exceeded"
  | endGroup => "unexpected end group tag"

structure DecodeError where
  cause : Cause
  path : List (String × String) := []
deriving DecidableEq

namespace DecodeError

def inside (owner member : String) (e : DecodeError) : DecodeError :=
  { e with path := e.path ++ [(owner, member)] }

def message (e : DecodeError) : String :=
  "failed to decode Protobuf message: "
    ++ String.join (e.path.map fun p => p.1 ++ "." ++ p.2 ++ ": ") ++ e.cause.message

end DecodeError

end FlowSchema.Wire
