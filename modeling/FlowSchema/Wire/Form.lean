import FlowSchema.Wire.Decode

namespace FlowSchema.Wire

class Form (α : Type) where
  type : MessageType
  read : List Field → α
  fields : α → List Field

namespace Field

/-! What was sent under a number, in order. -/

def texts (number : Nat) (fs : List Field) : List String :=
  fs.filterMap fun
    | text n s => if n = number then some s else none
    | _ => none

def varints (number : Nat) (fs : List Field) : List Nat :=
  fs.filterMap fun
    | varint n v => if n = number then some v else none
    | _ => none

def parts (number : Nat) (fs : List Field) : List (List Field) :=
  fs.filterMap fun
    | message n part => if n = number then some part else none
    | _ => none

/-! Of several values of a member that does not repeat, the last one counts. -/

def text? (number : Nat) (fs : List Field) : Option String := (texts number fs).getLast?

def int32? (number : Nat) (fs : List Field) : Option Int32 :=
  (varints number fs).getLast?.map int32Of

def uint64? (number : Nat) (fs : List Field) : Option UInt64 :=
  (varints number fs).getLast?.map Nat.toUInt64

def bool? (number : Nat) (fs : List Field) : Option Bool :=
  (varints number fs).getLast?.map boolOf

variable {α : Type} [Form α]

def records (number : Nat) (fs : List Field) : List α := (parts number fs).map Form.read

/-- A record that does not repeat may be sent in several parts. -/
def record? (number : Nat) (fs : List Field) : Option α :=
  match parts number fs with
  | [] => none
  | ps => some (Form.read ps.flatten)

def ofRecords (number : Nat) (as : List α) : List Field :=
  as.map fun a => message number (Form.fields a)

def ofRecord (number : Nat) (a? : Option α) : List Field := ofRecords number a?.toList

end Field

def encode {α : Type} [Form α] (a : α) : List UInt8 := Field.encodeAll (Form.fields a)

def decodeAs (α : Type) [Form α] (bytes : List UInt8) : Except DecodeError α :=
  Form.read <$> decode (Form.type α) bytes

end FlowSchema.Wire
