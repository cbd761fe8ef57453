import FlowSchema.Proofs.Encoded
import FlowSchema.Proofs.Nesting
import FlowSchema.Wire.Form.Request

namespace FlowSchema.Wire

namespace Field

variable {α : Type} (n m : Nat)

@[simp] theorem texts_append (fs gs : List Field) : texts n (fs ++ gs) = texts n fs ++ texts n gs :=
  List.filterMap_append

@[simp] theorem varints_append (fs gs : List Field) :
    varints n (fs ++ gs) = varints n fs ++ varints n gs :=
  List.filterMap_append

@[simp] theorem parts_append (fs gs : List Field) : parts n (fs ++ gs) = parts n fs ++ parts n gs :=
  List.filterMap_append

theorem filterMap_map_of_some {β γ : Type} {f : β → Option γ} {g : α → β} {k : α → γ}
    (h : ∀ a, f (g a) = some (k a)) (l : List α) : (l.map g).filterMap f = l.map k := by
  induction l with
  | nil => rfl
  | cons a l ih => rw [List.map_cons, List.filterMap_cons_some (h a), ih, List.map_cons]

/-! Every member is sent as a list of fields of one kind under one number. -/

@[simp] theorem texts_map_text (ss : List String) :
    texts n (ss.map (text m)) = if m = n then ss else [] := by
  by_cases h : m = n
  · rw [if_pos h]
    refine (filterMap_map_of_some (k := id) (fun s => ?_) ss).trans (List.map_id ss)
    exact if_pos h
  · simp [texts, h]

@[simp] theorem texts_map_varint (g : α → Nat) (l : List α) :
    texts n (l.map fun a => varint m (g a)) = [] := by
  simp [texts]

@[simp] theorem texts_map_message (g : α → List Field) (l : List α) :
    texts n (l.map fun a => message m (g a)) = [] := by
  simp [texts]

@[simp] theorem varints_map_text (ss : List String) : varints n (ss.map (text m)) = [] := by
  simp [varints]

@[simp] theorem varints_map_varint (g : α → Nat) (l : List α) :
    varints n (l.map fun a => varint m (g a)) = if m = n then l.map g else [] := by
  by_cases h : m = n
  · rw [if_pos h]
    refine filterMap_map_of_some (fun a => ?_) l
    exact if_pos h
  · simp [varints, h]

@[simp] theorem varints_map_message (g : α → List Field) (l : List α) :
    varints n (l.map fun a => message m (g a)) = [] := by
  simp [varints]

@[simp] theorem parts_map_text (ss : List String) : parts n (ss.map (text m)) = [] := by
  simp [parts]

@[simp] theorem parts_map_varint (g : α → Nat) (l : List α) :
    parts n (l.map fun a => varint m (g a)) = [] := by
  simp [parts]

@[simp] theorem parts_map_message (g : α → List Field) (l : List α) :
    parts n (l.map fun a => message m (g a)) = if m = n then l.map g else [] := by
  by_cases h : m = n
  · rw [if_pos h]
    refine filterMap_map_of_some (fun a => ?_) l
    exact if_pos h
  · simp [parts, h]

end Field

open FlowSchema.Wire.Field

@[simp] theorem getLast?_toList {α : Type} (a? : Option α) : a?.toList.getLast? = a? := by
  cases a? with
  | none | some a => rfl

theorem ofNat_toUInt64 (k : Int64) : Int64.ofNat k.toUInt64.toNat = k := by
  rw [← Int64.toBitVec_inj, Int64.toBitVec_ofNat']
  exact (BitVec.ofNat_toNat 64 _).trans (BitVec.setWidth_eq _)

@[simp] theorem int32Of_sent (n : Int32) : int32Of n.toInt64.toUInt64.toNat = n := by
  rw [int32Of, ← Int64.toInt32_ofNat', ofNat_toUInt64, Int32.toInt32_toInt64]

@[simp] theorem boolOf_sent (b : Bool) : boolOf b.toNat = b := by
  cases b <;> decide

class LawfulForm (α : Type) [Form α] : Prop where
  read_fields (a : α) : Form.read (Form.fields a) = a
  fits (a : α) : AllFit (Form.type α) (Form.fields a)

attribute [simp] LawfulForm.read_fields

def joined? {α : Type} [Form α] (ps : List (List Field)) : Option α :=
  match ps with
  | [] => none
  | ps => some (Form.read ps.flatten)

theorem record?_eq {α : Type} [Form α] (n : Nat) (fs : List Field) :
    (record? n fs : Option α) = joined? (parts n fs) :=
  rfl

@[simp] theorem joined?_fields {α : Type} [Form α] [LawfulForm α] (a? : Option α) :
    joined? (a?.toList.map fun a => Form.fields a) = a? := by
  cases a? with
  | none => rfl
  | some a => simp [joined?]

section

variable {t : MessageType} {n : Nat}

theorem allFit_varints {α : Type} {g : α → Nat} {l : List α}
    (h : (t.member? n).map Member.kind = some .varint) (small : ∀ a ∈ l, g a < UInt64.size) :
    AllFit t (l.map fun a => varint n (g a)) :=
  List.forall_mem_map.mpr fun a ha => .of_kind h (.varint (small a ha))

theorem allFit_ofTexts (h : (t.member? n).map Member.kind = some .text) (ss : List String) :
    AllFit t (ofTexts n ss) :=
  List.forall_mem_map.mpr fun s _ => .of_kind h (.text s)

theorem allFit_ofText (h : (t.member? n).map Member.kind = some .text) (s : Option String) :
    AllFit t (ofText n s) :=
  allFit_ofTexts h s.toList

theorem allFit_ofInt32 (h : (t.member? n).map Member.kind = some .varint) (k : Option Int32) :
    AllFit t (ofInt32 n k) :=
  allFit_varints h fun _ _ => UInt64.toNat_lt_size _

theorem allFit_ofUInt64 (h : (t.member? n).map Member.kind = some .varint) (k : Option UInt64) :
    AllFit t (ofUInt64 n k) :=
  allFit_varints h fun _ _ => UInt64.toNat_lt_size _

theorem allFit_ofBool (h : (t.member? n).map Member.kind = some .varint) (b : Option Bool) :
    AllFit t (ofBool n b) :=
  allFit_varints h fun b _ => Nat.lt_trans (Bool.toNat_lt b) (by decide)

theorem allFit_records {α : Type} [Form α]
    (h : (t.member? n).map Member.kind = some (.message (Form.type α))) {as : List α}
    (inner : ∀ a ∈ as, AllFit (Form.type α) (Form.fields a)) : AllFit t (ofRecords n as) := by
  obtain ⟨m, member, kind⟩ := Option.map_eq_some_iff.mp h
  exact List.forall_mem_map.mpr fun a ha => .message member kind (inner a ha)

theorem allFit_ofRecords {α : Type} [Form α] [LawfulForm α]
    (h : (t.member? n).map Member.kind = some (.message (Form.type α))) (as : List α) :
    AllFit t (ofRecords n as) :=
  allFit_records h fun a _ => LawfulForm.fits a

theorem allFit_ofRecord {α : Type} [Form α] [LawfulForm α]
    (h : (t.member? n).map Member.kind = some (.message (Form.type α))) (a? : Option α) :
    AllFit t (ofRecord n a?) :=
  allFit_ofRecords h a?.toList

end

instance : LawfulForm FieldOptions where
  read_fields o := by
    dsimp only [Form.read, Form.fields]
    simp [int32?, ofInt32, Function.comp_def]
  fits o := by
    dsimp only [Form.fields]
    simp (disch := decide) only [allFit_append, allFit_ofInt32, and_self]

instance : LawfulForm FieldDescriptor where
  read_fields f := by
    dsimp only [Form.read, Form.fields]
    simp [int32?, ofInt32, text?, ofText, bool?, ofBool, record?_eq, ofRecord, ofRecords,
      Function.comp_def]
  fits f := by
    dsimp only [Form.fields]
    simp (disch := decide) only [allFit_append, allFit_ofInt32, allFit_ofText, allFit_ofBool,
      allFit_ofRecord, and_self]

instance : LawfulForm EnumValueDescriptor where
  read_fields v := by
    dsimp only [Form.read, Form.fields]
    simp [int32?, ofInt32, text?, ofText, Function.comp_def]
  fits v := by
    dsimp only [Form.fields]
    simp (disch := decide) only [allFit_append, allFit_ofInt32, allFit_ofText, and_self]

instance : LawfulForm EnumDescriptor where
  read_fields e := by
    dsimp only [Form.read, Form.fields]
    simp [text?, ofText, records, ofRecords, Function.comp_def]
  fits e := by
    dsimp only [Form.fields]
    simp (disch := decide) only [allFit_append, allFit_ofText, allFit_ofRecords, and_self]

instance : LawfulForm OneofDescriptor where
  read_fields o := by
    dsimp only [Form.read, Form.fields]
    simp [text?, ofText]
  fits o := by
    dsimp only [Form.fields]
    simp (disch := decide) only [allFit_ofText]

instance : LawfulForm MessageOptions where
  read_fields o := by
    dsimp only [Form.read, Form.fields]
    simp [bool?, ofBool, Function.comp_def]
  fits o := by
    dsimp only [Form.fields]
    simp (disch := decide) only [allFit_append, allFit_ofBool, and_self]

namespace MessageForm

theorem nestedIn_eq (f : Field) : nestedIn f = records 3 [f] := by
  cases f with
  | varint n value | packed n values | double n raw | bytes n value | text n value => rfl
  | message n part =>
    by_cases h : n = 3
    · subst h
      rfl
    · have other : parts 3 [message n part] = [] := by simp [parts, h]
      rw [records, other, nestedIn]
      · rfl
      · simpa using h

theorem nested_eq (fs : List Field) : nested fs = records 3 fs := by
  induction fs with
  | nil => rfl
  | cons f fs ih =>
    rw [nested, ih, nestedIn_eq, records, records, ← List.map_append, ← parts_append]
    rfl

theorem ofNested_eq (ms : List MessageDescriptor) : ofNested ms = ofRecords 3 ms := by
  induction ms with
  | nil => rfl
  | cons m ms ih =>
    rw [ofNested, ih]
    rfl

theorem fields_eq (m : MessageDescriptor) : fields m =
    ofText 1 m.name? ++ ofRecords 2 m.fields ++ ofRecords 3 m.nested ++ ofRecords 4 m.enums
      ++ ofRecords 6 m.extensions ++ ofRecord 7 m.options? ++ ofRecords 8 m.oneofs := by
  cases m
  rw [fields, ofNested_eq]

theorem read_fields (m : MessageDescriptor) : read (fields m) = m := by
  induction m using MessageDescriptor.nested_induction with
  | step m ih =>
    have inner : m.nested.map (fun n => Form.read (Form.fields n)) = m.nested :=
      (List.map_congr_left ih).trans (List.map_id m.nested)
    have members :
        ⟨m.name?, m.fields, m.nested, m.enums, m.extensions, m.options?, m.oneofs⟩ = m := by
      cases m
      rfl
    refine Eq.trans ?_ members
    rw [read, nested_eq, fields_eq, assemble]
    simp [text?, ofText, records, ofRecords, record?_eq, ofRecord, Function.comp_def, inner]

theorem fits (m : MessageDescriptor) : AllFit .message (fields m) := by
  induction m using MessageDescriptor.nested_induction with
  | step m ih =>
    rw [fields_eq]
    have inner : AllFit .message (ofRecords 3 m.nested) := allFit_records rfl ih
    simp (disch := decide) only [allFit_append, allFit_ofText, inner, allFit_ofRecords,
      allFit_ofRecord, and_self]

end MessageForm

instance : LawfulForm MessageDescriptor where
  read_fields := MessageForm.read_fields
  fits := MessageForm.fits

instance : LawfulForm ServiceDescriptor where
  read_fields _ := rfl
  fits _ := List.forall_mem_nil _

instance : LawfulForm FileDescriptor where
  read_fields f := by
    dsimp only [Form.read, Form.fields]
    simp [text?, ofText, ofTexts, records, ofRecords, Function.comp_def]
  fits f := by
    dsimp only [Form.fields]
    simp (disch := decide) only [allFit_append, allFit_ofText, allFit_ofTexts, allFit_ofRecords,
      and_self]

instance : LawfulForm Version where
  read_fields v := by
    dsimp only [Form.read, Form.fields]
    simp [int32?, ofInt32, text?, ofText, Function.comp_def]
  fits v := by
    dsimp only [Form.fields]
    simp (disch := decide) only [allFit_append, allFit_ofInt32, allFit_ofText, and_self]

instance : LawfulForm Request where
  read_fields q := by
    dsimp only [Form.read, Form.fields]
    simp [text?, ofText, ofTexts, records, ofRecords, record?_eq, ofRecord, Function.comp_def]
  fits q := by
    dsimp only [Form.fields]
    simp (disch := decide) only [allFit_append, allFit_ofText, allFit_ofTexts, allFit_ofRecords,
      allFit_ofRecord, and_self]

instance : LawfulForm OutputFile where
  read_fields f := by
    dsimp only [Form.read, Form.fields]
    simp [text?, ofText]
  fits f := by
    dsimp only [Form.fields]
    simp (disch := decide) only [allFit_append, allFit_ofText, and_self]

instance : LawfulForm Response where
  read_fields r := by
    dsimp only [Form.read, Form.fields]
    simp [text?, ofText, uint64?, ofUInt64, records, ofRecords, Function.comp_def]
  fits r := by
    dsimp only [Form.fields]
    simp (disch := decide) only [allFit_append, allFit_ofText, allFit_ofUInt64, allFit_ofRecords,
      and_self]

end FlowSchema.Wire
