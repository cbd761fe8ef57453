import FlowSchema.Proofs.WireScalars

namespace FlowSchema.Wire

inductive Payload : WireType → List UInt8 → Prop
  | varint {n : Nat} (small : n < UInt64.size) : Payload .varint (Varint.write n)
  | sixtyFourBit {bytes : List UInt8} (size : bytes.length = 8) : Payload .sixtyFourBit bytes
  | thirtyTwoBit {bytes : List UInt8} (size : bytes.length = 4) : Payload .thirtyTwoBit bytes
  | lengthDelimited (bytes : List UInt8) : Payload .lengthDelimited (Field.sized bytes)

inductive Carries (number : Nat) : Kind → Field → WireType → List UInt8 → Prop
  | varint {n : Nat} (small : n < UInt64.size) :
    Carries number .varint (.varint number n) .varint (Varint.write n)
  | single {n : Nat} (small : n < UInt64.size) :
    Carries number .varints (.varint number n) .varint (Varint.write n)
  | packed {ns : List Nat} (small : ∀ n ∈ ns, n < UInt64.size) :
    Carries number .varints (.packed number ns) .lengthDelimited
      (Field.sized (ns.flatMap Varint.write))
  | double {raw : List UInt8} (size : raw.length = 8) :
    Carries number .double (.double number raw) .sixtyFourBit raw
  | bytes (value : List UInt8) :
    Carries number .bytes (.bytes number value) .lengthDelimited (Field.sized value)
  | text (s : String) :
    Carries number .text (.text number s) .lengthDelimited (Field.sized (Field.utf8 s))

/-- Bytes that send the fields of a message in order, messages standing inside each other to the
depth of `budget`. Fields of unknown members may stand between them. -/
inductive Sends : (budget : Nat) → MessageType → List Field → List UInt8 → Prop
  | nil {budget : Nat} {t : MessageType} : Sends budget t [] []
  | scalar {budget number : Nat} {t : MessageType} {m : Member} {f : Field} {w : WireType}
      {fs : List Field} {payload bytes : List UInt8} (member : t.member? number = some m)
      (carries : Carries number m.kind f w payload) (rest : Sends budget t fs bytes) :
    Sends budget t (f :: fs) (Field.key number w ++ payload ++ bytes)
  | message {budget number : Nat} {t u : MessageType} {m : Member} {fs inner : List Field}
      {bytes inside : List UInt8} (member : t.member? number = some m)
      (kind : m.kind = .message u) (sends : Sends budget u inner inside)
      (rest : Sends (budget + 1) t fs bytes) :
    Sends (budget + 1) t (.message number inner :: fs) (Field.delimited number inside ++ bytes)
  | unknown {budget number : Nat} {t : MessageType} {w : WireType} {fs : List Field}
      {payload bytes : List UInt8} (member : t.member? number = none) (positive : 0 < number)
      (small : 8 * number < UInt32.size) (passed : Payload w payload)
      (rest : Sends (budget + 1) t fs bytes) :
    Sends (budget + 1) t fs (Field.key number w ++ payload ++ bytes)

section

variable {α : Type} {step : Step α}

theorem readUntil_of_le {stop fuel : Nat} {i : Input} (h : i.size ≤ stop) :
    readUntil stop step fuel i = .ok ([], i) := by
  cases fuel with
  | zero => rfl
  | succ fuel =>
    rw [readUntil, if_pos h]
    rfl

theorem readUntil_of_lt {stop fuel : Nat} {i rest last : Input} {part? : Option α} {parts : List α}
    (h : stop < i.size) (first : step i = .ok (part?, rest))
    (others : readUntil stop step fuel rest = .ok (parts, last)) :
    readUntil stop step (fuel + 1) i = .ok (part?.toList ++ parts, last) := by
  rw [readUntil, if_neg (Nat.not_le.mpr h), first]
  simp only [bind, Except.bind, others]
  rfl

/-- Whatever follows the bytes, steps lead through them and no further. -/
def Reads (step : Step α) (parts : List α) (bytes : List UInt8) : Prop :=
  ∀ (more : List UInt8) (fuel : Nat), bytes.length ≤ fuel →
    readUntil more.length step fuel (.ofBytes (bytes ++ more)) = .ok (parts, .ofBytes more)

namespace Reads

variable {parts : List α} {bytes chunk : List UInt8}

theorem nil : Reads step [] [] := fun _ _ _ => readUntil_of_le (Nat.le_refl _)

theorem append (part? : Option α) (ne : chunk ≠ [])
    (first : ∀ more, step (.ofBytes (chunk ++ more)) = .ok (part?, .ofBytes more))
    (rest : Reads step parts bytes) : Reads step (part?.toList ++ parts) (chunk ++ bytes) := by
  intro more fuel enough
  have positive := List.length_pos_iff.mpr ne
  rw [List.length_append] at enough
  obtain ⟨fuel, rfl⟩ : ∃ k, fuel = k + 1 := ⟨fuel - 1, by omega⟩
  rw [List.append_assoc]
  refine readUntil_of_lt ?_ (first _) (rest more fuel (by omega))
  simp only [Input.size_ofBytes, List.length_append]
  omega

end Reads

theorem readDelimited_append {parts : List α} {bytes : List UInt8} (h : Reads step parts bytes)
    (small : bytes.length < UInt64.size) (more : List UInt8) :
    readDelimited step (.ofBytes (Field.sized bytes ++ more)) = .ok (parts, .ofBytes more) := by
  have size : (Input.ofBytes (bytes ++ more)).size = bytes.length + more.length := by simp
  rw [readDelimited, Field.sized, List.append_assoc, readVarint_write small]
  simp only [bind, Except.bind, size, if_neg (Nat.not_lt.mpr (Nat.le_add_right _ _)),
    Nat.add_sub_cancel_left, h more _ (Nat.le_add_right _ _)]
  exact if_pos rfl

end

theorem reads_numbers {ns : List Nat} (h : ∀ n ∈ ns, n < UInt64.size) :
    Reads readNumber ns (ns.flatMap Varint.write) := by
  induction ns with
  | nil => exact .nil
  | cons n ns ih =>
    obtain ⟨small, others⟩ := List.forall_mem_cons.mp h
    refine Reads.append (some n) (Varint.write_ne_nil n) (fun more => ?_) (ih others)
    rw [readNumber, readVarint_write small]
    rfl

theorem key_ne_nil (number : Nat) (w : WireType) : Field.key number w ≠ [] :=
  Varint.write_ne_nil _

theorem MessageType.number_of_member {t : MessageType} {number : Nat} {m : Member}
    (h : t.member? number = some m) : 0 < number ∧ 8 * number < UInt32.size := by
  have bounds : ∀ p ∈ t.members, 0 < p.1 ∧ 8 * p.1 < UInt32.size := by
    cases t <;> decide
  obtain ⟨before, after, members, -⟩ := List.lookup_eq_some_iff.mp h
  exact bounds (number, m) (by simp [members])

theorem length_lt_of_sized {bytes : List UInt8} {n : Nat} (h : (Field.sized bytes).length < n) :
    bytes.length < n := by
  rw [Field.sized, List.length_append] at h
  omega

theorem skip_payload {w : WireType} {payload : List UInt8} (h : Payload w payload)
    (small : payload.length < UInt64.size) (budget number : Nat) (more : List UInt8) :
    skip (budget + 1) ⟨number, w⟩ (.ofBytes (payload ++ more)) = .ok (.ofBytes more) := by
  cases h with
  | varint h =>
    rw [skip, readVarint_write h]
    rfl
  | sixtyFourBit h =>
    rw [skip, ← h, readBytes_append]
    rfl
  | thirtyTwoBit h =>
    rw [skip, ← h, readBytes_append]
    rfl
  | lengthDelimited bytes =>
    rw [skip, readSized_append (length_lt_of_sized small)]
    rfl

theorem readSingle_write {number n : Nat} (small : n < UInt64.size) (more : List UInt8) :
    readSingle ⟨number, .varint⟩ (.ofBytes (Varint.write n ++ more)) =
      .ok (.varint number n, .ofBytes more) := by
  rw [readSingle, readVarint_write small]
  rfl

theorem readMember_of_carries {number : Nat} {kind : Kind} {f : Field} {w : WireType}
    {payload : List UInt8} (h : Carries number kind f w payload)
    (small : payload.length < UInt64.size) (inner? : Option (MessageType → Step Field))
    (more : List UInt8) :
    readMember inner? kind ⟨number, w⟩ (.ofBytes (payload ++ more)) = .ok (f, .ofBytes more) := by
  cases h with
  | varint fits => exact readSingle_write fits more
  | single fits => exact readSingle_write fits more
  | packed fits =>
    rw [readMember, readDelimited_append (reads_numbers fits) (length_lt_of_sized small)]
    rfl
  | double size =>
    rw [readMember, ← size, readBytes_append]
    rfl
  | bytes value =>
    rw [readMember, readSized_append (length_lt_of_sized small)]
    rfl
  | text s =>
    rw [readMember, readText_append (length_lt_of_sized small)]
    rfl

theorem readMember_message {reader : MessageType → Step Field} {number : Nat} {t : MessageType}
    {fs : List Field} {bytes : List UInt8} (h : Reads (reader t) fs bytes)
    (small : bytes.length < UInt64.size) (more : List UInt8) :
    readMember (some reader) (.message t) ⟨number, .lengthDelimited⟩
      (.ofBytes (Field.sized bytes ++ more)) = .ok (.message number fs, .ofBytes more) := by
  rw [readMember, readDelimited_append h small]
  rfl

section

variable {budget number : Nat} {inner? : Option (MessageType → Step Field)} {t : MessageType}
  {w : WireType} {payload : List UInt8}

theorem readFieldWith_member {m : Member} {f : Field} (member : t.member? number = some m)
    (h : ∀ more, readMember inner? m.kind ⟨number, w⟩ (.ofBytes (payload ++ more)) =
      .ok (f, .ofBytes more)) (more : List UInt8) :
    readFieldWith budget inner? t (.ofBytes (Field.key number w ++ payload ++ more)) =
      .ok (some f, .ofBytes more) := by
  obtain ⟨positive, small⟩ := MessageType.number_of_member member
  rw [readFieldWith, List.append_assoc, readKey_key positive small]
  simp only [bind, Except.bind, member, h]
  rfl

theorem Reads.member {m : Member} {f : Field} {fs : List Field} {bytes : List UInt8}
    (member : t.member? number = some m)
    (h : ∀ more, readMember inner? m.kind ⟨number, w⟩ (.ofBytes (payload ++ more)) =
      .ok (f, .ofBytes more))
    (rest : Reads (readFieldWith budget inner? t) fs bytes) :
    Reads (readFieldWith budget inner? t) (f :: fs) (Field.key number w ++ payload ++ bytes) :=
  .append (some f) (by simp [key_ne_nil]) (readFieldWith_member member h) rest

theorem readFieldWith_unknown (member : t.member? number = none) (positive : 0 < number)
    (small : 8 * number < UInt32.size) (passed : Payload w payload)
    (size : payload.length < UInt64.size) (more : List UInt8) :
    readFieldWith (budget + 1) inner? t (.ofBytes (Field.key number w ++ payload ++ more)) =
      .ok (none, .ofBytes more) := by
  rw [readFieldWith, List.append_assoc, readKey_key positive small]
  simp only [bind, Except.bind, member, skip_payload passed size]
  rfl

end

theorem readField_eq (budget : Nat) : ∃ inner?, readField budget = readFieldWith budget inner? := by
  cases budget with
  | zero => exact ⟨none, rfl⟩
  | succ budget => exact ⟨some (readField budget), rfl⟩

theorem Sends.reads {budget : Nat} {t : MessageType} {fs : List Field} {bytes : List UInt8}
    (h : Sends budget t fs bytes) (small : bytes.length < UInt64.size) :
    Reads (readField budget t) fs bytes := by
  -- The fields inside a message are read by the reader one level down, which is the first of the two
  -- induction hypotheses there.
  induction h with
  | nil => exact .nil
  | @scalar budget _ _ _ _ _ _ _ _ member carries _ ih =>
    simp only [List.length_append] at small
    obtain ⟨inner?, reader⟩ := readField_eq budget
    rw [reader] at ih ⊢
    exact .member member (readMember_of_carries carries (by omega) inner?) (ih (by omega))
  | @message _ _ _ _ _ _ _ _ inside member kind _ _ ihInner ih =>
    simp only [Field.delimited, List.length_append] at small ⊢
    have fits : inside.length < UInt64.size := length_lt_of_sized (by omega)
    refine .member member (fun more => ?_) (ih (by omega))
    rw [kind, readMember_message (ihInner fits) fits]
  | @unknown budget number t w fs payload bytes member positive fits passed _ ih =>
    simp only [List.length_append] at small
    refine Reads.append none (by simp [key_ne_nil]) (fun more => ?_) (ih (by omega))
    exact readFieldWith_unknown member positive fits passed (by omega) more

theorem decode_of_sends {t : MessageType} {fs : List Field} {bytes : List UInt8}
    (h : Sends nestingLimit t fs bytes) (small : bytes.length < UInt64.size) :
    decode t bytes = .ok fs := by
  have whole := h.reads small [] bytes.length (Nat.le_refl _)
  rw [List.append_nil, List.length_nil] at whole
  rw [decode, whole]
  rfl

end FlowSchema.Wire
