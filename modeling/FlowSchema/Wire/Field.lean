import FlowSchema.Wire.DecodeError
import FlowSchema.Wire.Varint

namespace FlowSchema.Wire

inductive Field
  | varint (number value : Nat)
  | packed (number : Nat) (values : List Nat)
  | double (number : Nat) (raw : List UInt8)
  | bytes (number : Nat) (value : List UInt8)
  | text (number : Nat) (value : String)
  | message (number : Nat) (fields : List Field)

namespace Field

def key (number : Nat) (t : WireType) : List UInt8 := Varint.write (8 * number + t.code)

def sized (bytes : List UInt8) : List UInt8 := Varint.write bytes.length ++ bytes

def delimited (number : Nat) (bytes : List UInt8) : List UInt8 :=
  key number .lengthDelimited ++ sized bytes

def utf8 (s : String) : List UInt8 := s.toUTF8.data.toList

mutual

def encode : Field → List UInt8
  | varint number value => key number .varint ++ Varint.write value
  | packed number values => delimited number (values.flatMap Varint.write)
  | double number raw => key number .sixtyFourBit ++ raw
  | bytes number value => delimited number value
  | text number value => delimited number (utf8 value)
  | message number fields => delimited number (encodeAll fields)

def encodeAll : List Field → List UInt8
  | [] => []
  | f :: fs => f.encode ++ encodeAll fs

end

/-! Members that are set or not, and members that repeat. -/

def ofText (number : Nat) (s : Option String) : List Field := s.toList.map (text number)

/-- Negative numbers are sent in sixty-four bits. -/
def ofInt32 (number : Nat) (n : Option Int32) : List Field :=
  n.toList.map fun n => varint number n.toInt64.toUInt64.toNat

def ofUInt64 (number : Nat) (n : Option UInt64) : List Field :=
  n.toList.map fun n => varint number n.toNat

def ofBool (number : Nat) (b : Option Bool) : List Field :=
  b.toList.map fun b => varint number b.toNat

def ofTexts (number : Nat) (ss : List String) : List Field := ss.map (text number)

end Field

def int32Of (value : Nat) : Int32 := Int32.ofNat value

def boolOf (value : Nat) : Bool := value ≠ 0

end FlowSchema.Wire
