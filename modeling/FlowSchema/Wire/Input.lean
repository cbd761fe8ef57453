namespace FlowSchema.Wire

@[ext] structure Input where
  bytes : List UInt8
  size : Nat
  size_eq : size = bytes.length

namespace Input

def ofBytes (bytes : List UInt8) : Input := ⟨bytes, bytes.length, rfl⟩

@[simp] theorem bytes_ofBytes (bytes : List UInt8) : (ofBytes bytes).bytes = bytes := rfl

@[simp] theorem size_ofBytes (bytes : List UInt8) : (ofBytes bytes).size = bytes.length := rfl

def next? : Input → Option (UInt8 × Input)
  | ⟨[], _, _⟩ => none
  | ⟨b :: rest, size, h⟩ => some (b, ⟨rest, size - 1, by simp_all⟩)

theorem next?_cons (b : UInt8) (rest : List UInt8) :
    (ofBytes (b :: rest)).next? = some (b, ofBytes rest) := rfl

def take? (i : Input) (n : Nat) : Option (List UInt8 × Input) :=
  if n ≤ i.size then
    some (i.bytes.take n, ⟨i.bytes.drop n, i.size - n, by simp [i.size_eq]⟩)
  else none

theorem take?_append (front rest : List UInt8) :
    (ofBytes (front ++ rest)).take? front.length = some (front, ofBytes rest) := by
  simp [take?, Input.ext_iff]

end Input

end FlowSchema.Wire
