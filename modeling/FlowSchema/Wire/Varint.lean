import FlowSchema.Wire.Input

namespace FlowSchema.Wire.Varint

/-- A number in groups of seven bits, the low ones first, of at most `count` bytes. All bytes but
the last have their high bit set. The last byte there may be has room for one bit only. -/
def readAt : (count : Nat) → Input → Option (Nat × Input)
  | 0, _ => none
  | count + 1, i =>
    match i.next? with
    | none => none
    | some (b, rest) =>
      if b < 128 then
        if count = 0 ∧ 2 ≤ b then none else some (b.toNat, rest)
      else (readAt count rest).map fun (high, rest) => (b.toNat % 128 + 128 * high, rest)

def read (i : Input) : Option (Nat × Input) := readAt 10 i

def writeAt : (count : Nat) → Nat → List UInt8
  | 0, _ => []
  | count + 1, n =>
    if n < 128 then [n.toUInt8] else (n % 128 + 128).toUInt8 :: writeAt count (n / 128)

def write (n : Nat) : List UInt8 := writeAt 10 n

end FlowSchema.Wire.Varint
