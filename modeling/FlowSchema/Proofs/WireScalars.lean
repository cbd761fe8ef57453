import FlowSchema.Wire.Form

namespace FlowSchema.Wire

namespace Varint

theorem readAt_cons (count : Nat) (b : UInt8) (rest : List UInt8) :
    readAt (count + 1) (.ofBytes (b :: rest)) =
      if b < 128 then if count = 0 ∧ 2 ≤ b then none else some (b.toNat, .ofBytes rest)
      else (readAt count (.ofBytes rest)).map
        fun (high, rest) => (b.toNat % 128 + 128 * high, rest) := by
  rw [readAt, Input.next?_cons]

/-- How many numbers there are when the last byte holds one bit and `count` bytes come before it. -/
def capacity : Nat → Nat
  | 0 => 2
  | count + 1 => 128 * capacity count

theorem readAt_writeAt (count : Nat) {n : Nat} (h : n < capacity count) (rest : List UInt8) :
    readAt (count + 1) (.ofBytes (writeAt (count + 1) n ++ rest)) = some (n, .ofBytes rest) := by
  induction count generalizing n with
  | zero =>
    rw [capacity] at h
    obtain rfl | rfl : n = 0 ∨ n = 1 := by omega
    · rfl
    · rfl
  | succ count ih =>
    rw [writeAt]
    by_cases last : n < 128
    · have byte : n.toUInt8.toNat = n := by
        rw [UInt8.toNat_ofNat']
        omega
      have less : n.toUInt8 < 128 := by
        rw [UInt8.lt_iff_toNat_lt, byte]
        exact last
      rw [if_pos last, List.singleton_append, readAt_cons, if_pos less, if_neg (by simp), byte]
    · have byte : (n % 128 + 128).toUInt8.toNat = n % 128 + 128 := by
        rw [UInt8.toNat_ofNat']
        omega
      have more : ¬(n % 128 + 128).toUInt8 < 128 := by
        rw [UInt8.lt_iff_toNat_lt, byte]
        exact Nat.not_lt.mpr (Nat.le_add_left 128 _)
      have high : n / 128 < capacity count := by
        rw [capacity] at h
        omega
      rw [if_neg last, List.cons_append, readAt_cons, if_neg more, ih high, byte, Option.map_some]
      refine congrArg (fun k => some (k, Input.ofBytes rest)) ?_
      omega

theorem read_write {n : Nat} (h : n < UInt64.size) (rest : List UInt8) :
    read (.ofBytes (write n ++ rest)) = some (n, .ofBytes rest) :=
  readAt_writeAt 9 h rest

theorem write_ne_nil (n : Nat) : write n ≠ [] := by
  rw [write, writeAt]
  split
  · simp
  · simp

end Varint

theorem readVarint_write {n : Nat} (h : n < UInt64.size) (rest : List UInt8) :
    readVarint (.ofBytes (Varint.write n ++ rest)) = .ok (n, .ofBytes rest) := by
  rw [readVarint, Varint.read_write h]

theorem readBytes_append (front rest : List UInt8) :
    readBytes front.length (.ofBytes (front ++ rest)) = .ok (front, .ofBytes rest) := by
  rw [readBytes, Input.take?_append]

theorem WireType.ofCode?_code (t : WireType) : ofCode? t.code = some t := by
  cases t <;> decide

theorem WireType.code_lt (t : WireType) : t.code < 8 := by
  cases t <;> decide

theorem readKey_key {n : Nat} (positive : 0 < n) (small : 8 * n < UInt32.size) (t : WireType)
    (rest : List UInt8) :
    readKey (.ofBytes (Field.key n t ++ rest)) = .ok (⟨n, t⟩, .ofBytes rest) := by
  have code := t.code_lt
  rw [UInt32.size] at small
  have fits : ¬UInt32.size ≤ 8 * n + t.code := by
    rw [UInt32.size]
    omega
  have low : (8 * n + t.code) % 8 = t.code := by omega
  have high : (8 * n + t.code) / 8 = n := by omega
  have number : ¬n = 0 := by omega
  have key : 8 * n + t.code < UInt64.size := by
    rw [UInt64.size]
    omega
  rw [readKey, Field.key, readVarint_write key]
  simp only [bind, Except.bind, if_neg fits, low, high, t.ofCode?_code, if_neg number]
  rfl

theorem readSized_append {bytes : List UInt8} (h : bytes.length < UInt64.size)
    (rest : List UInt8) :
    readSized (.ofBytes (Field.sized bytes ++ rest)) = .ok (bytes, .ofBytes rest) := by
  rw [readSized, Field.sized, List.append_assoc, readVarint_write h]
  exact readBytes_append bytes rest

theorem fromUTF8?_utf8 (s : String) : String.fromUTF8? ⟨(Field.utf8 s).toArray⟩ = some s := by
  have bytes : (⟨(Field.utf8 s).toArray⟩ : ByteArray) = s.toByteArray := by
    rw [Field.utf8, Array.toArray_toList]
    rfl
  rw [bytes, String.fromUTF8?, dif_pos s.isValidUTF8]
  rfl

theorem readText_append {s : String} (h : (Field.utf8 s).length < UInt64.size)
    (rest : List UInt8) :
    readText (.ofBytes (Field.sized (Field.utf8 s) ++ rest)) = .ok (s, .ofBytes rest) := by
  rw [readText, readSized_append h]
  simp only [bind, Except.bind, fromUTF8?_utf8]
  rfl

end FlowSchema.Wire
