import FlowSchema.Descriptor.Draft
import FlowSchema.Proofs.Enumeration
import FlowSchema.Proofs.Lines
import FlowSchema.Proofs.Rendered
import Mathlib.Algebra.Group.Nat.Defs
import Mathlib.Data.List.ReduceOption

namespace FlowSchema

open Identifier Layout

def FieldDescriptor.IsIn (f : FieldDescriptor) (i : Nat) : Prop :=
  f.oneofIndex?.map Int32.toInt = some (i : Int)

instance (f : FieldDescriptor) (i : Nat) : Decidable (f.IsIn i) :=
  inferInstanceAs (Decidable (_ = _))

theorem FieldDescriptor.isIn_iff {f : FieldDescriptor} {i : Nat} (hi : i < 2 ^ 31) :
    f.IsIn i ↔ f.oneofIndex? = some (Int32.ofNat i) := by
  have cast : (Int32.ofNat i).toInt = (i : Int) := Int32.toInt_ofNat_of_lt hi
  rw [IsIn, Option.map_eq_some_iff]
  constructor
  · rintro ⟨j, hj, same⟩
    rw [hj, ← Int32.toInt_inj.mp (same.trans cast.symm)]
  · intro h
    exact ⟨_, h, cast⟩

theorem FieldDescriptor.IsIn.unique {f : FieldDescriptor} {i j : Nat} (hi : f.IsIn i)
    (hj : f.IsIn j) : i = j := by
  have same : some (i : Int) = some (j : Int) := hi.symm.trans hj
  exact Int.ofNat_inj.mp (Option.some.inj same)

theorem OneofDescriptor.table_content (outer : String) (o : OneofDescriptor)
    (members : List FieldDescriptor) (exact : Bool) :
    ((o.table outer members).layout exact).map Piece.content =
      ("export const " ++ nested outer (oneofName o.name ++ "Case") ++ " = Object.freeze(\x7b")
        :: ("  " ++ constantName o.name ++ "_NOT_SET: 0,")
        :: members.map (fun f => "  " ++ constantName f.name ++ ": " ++ f.number.toInt.repr ++ ",")
        ++ ["\x7d);", ""] := by
  have first : "_NOT_SET: 0," = "_NOT_SET" ++ (": " ++ ((0 : Int32).toInt.repr ++ ",")) := by
    decide
  have closing : (o.table outer members).closing exact = "\x7d);" := rfl
  rw [Declaration.layout, closing, table, Declaration.heading_table, first]
  simp only [Declaration.body, List.map_cons, List.map_append, List.map_map,
    String.append_assoc, List.cons_append, List.map_nil]
  rfl

structure OneofTable where
  declaration : Declaration
  members : List (Nat × FieldDescriptor)

structure OneofTable.IsOf (t : OneofTable) (outer : String) (m : MessageDescriptor) (i : Nat)
    (o : OneofDescriptor) : Prop where
  sorted : t.members.Pairwise (fun x y => x.1 < y.1)
  complete : ∀ j f, (j, f) ∈ t.members ↔ m.fields[j]? = some f ∧ f.IsIn i
  lines : ∀ exact, (t.declaration.layout exact).map Piece.content =
    ("export const " ++ nested outer (oneofName o.name ++ "Case") ++ " = Object.freeze(\x7b")
      :: ("  " ++ constantName o.name ++ "_NOT_SET: 0,")
      :: t.members.map (fun x =>
        "  " ++ constantName x.2.name ++ ": " ++ x.2.number.toInt.repr ++ ",")
      ++ ["\x7d);", ""]

structure MessageDescriptor.HasTables (m : MessageDescriptor) (outer : String)
    (tables : List (Option OneofTable)) : Prop where
  length : tables.length = m.oneofs.length
  skipped : ∀ i < m.oneofs.length, tables[i]? = some none ↔
    (∃ f ∈ m.fields, f.IsIn i) ∧ ∀ f ∈ m.fields, f.IsIn i → f.proto3Optional = true
  table : ∀ (i : Nat) (t : OneofTable), tables[i]? = some (some t) →
    ∃ o, m.oneofs[i]? = some o ∧ t.IsOf outer m i o
  once : ∀ (j : Nat) (f : FieldDescriptor) (i : Nat), m.fields[j]? = some f → f.IsIn i →
    i < m.oneofs.length → tables[i]? ≠ some none →
    ∃! k : Nat, ∃ t : OneofTable, tables[k]? = some (some t) ∧ (j, f) ∈ t.members
  never : ∀ (j : Nat) (f : FieldDescriptor), m.fields[j]? = some f →
    (∀ i < m.oneofs.length, ¬f.IsIn i) →
    ∀ t : OneofTable, some t ∈ tables → (j, f) ∉ t.members

namespace MessageDescriptor

def placedMembers (m : MessageDescriptor) (i : Nat) : List (Nat × FieldDescriptor) :=
  (placed m.fields).filter fun x => x.2.oneofIndex? = some (Int32.ofNat i)

theorem map_snd_placedMembers (m : MessageDescriptor) (i : Nat) :
    (m.placedMembers i).map Prod.snd = m.members i := by
  conv_rhs => rw [members_eq, ← map_snd_placed m.fields, List.filter_map]
  rfl

theorem mem_placedMembers {m : MessageDescriptor} {i j : Nat} {f : FieldDescriptor}
    (hi : i < 2 ^ 31) : (j, f) ∈ m.placedMembers i ↔ m.fields[j]? = some f ∧ f.IsIn i := by
  rw [placedMembers, List.mem_filter, decide_eq_true_iff, mem_placed, FieldDescriptor.isIn_iff hi]

theorem mem_members {m : MessageDescriptor} {i : Nat} {f : FieldDescriptor} (hi : i < 2 ^ 31) :
    f ∈ m.members i ↔ f ∈ m.fields ∧ f.IsIn i := by
  rw [members_eq, List.mem_filter, decide_eq_true_iff, FieldDescriptor.isIn_iff hi]

theorem isSynthetic_members_iff {m : MessageDescriptor} {i : Nat} (hi : i < 2 ^ 31) :
    OneofDescriptor.isSynthetic (m.members i) = true ↔
      (∃ f ∈ m.fields, f.IsIn i) ∧ ∀ f ∈ m.fields, f.IsIn i → f.proto3Optional = true := by
  have some : m.members i ≠ [] ↔ ∃ f ∈ m.fields, f.IsIn i := by
    rw [← List.isEmpty_eq_false_iff, List.isEmpty_eq_false_iff_exists_mem]
    simp only [mem_members hi]
  rw [OneofDescriptor.isSynthetic_iff, some]
  simp only [mem_members hi, and_imp]

variable (outer : String) (m : MessageDescriptor)

def oneofTable? (o : OneofDescriptor) (i : Nat) : Option OneofTable :=
  if OneofDescriptor.isSynthetic (m.members i) then none
  else some ⟨o.table outer (m.members i), m.placedMembers i⟩

def oneofTables : List (Option OneofTable) :=
  m.oneofs.zipIdx.map fun (o, i) => m.oneofTable? outer o i

theorem tables_eq :
    m.tables outer = (m.oneofTables outer).reduceOption.map OneofTable.declaration := by
  rw [oneofTables, List.reduceOption, List.filterMap_map, List.map_filterMap,
    List.filterMap_eq_flatMap_toList, tables]
  refine List.flatMap_congr fun x _ => ?_
  obtain ⟨o, i⟩ := x
  by_cases h : OneofDescriptor.isSynthetic (m.members i) = true <;> simp [oneofTable?, h]

theorem getElem?_oneofTables (i : Nat) :
    (m.oneofTables outer)[i]? = m.oneofs[i]?.map fun o => m.oneofTable? outer o i := by
  rw [oneofTables, List.getElem?_map, List.getElem?_zipIdx, Option.map_map, Nat.zero_add]
  rfl

theorem oneofTable?_isOf {i : Nat} (hi : i < 2 ^ 31) {o : OneofDescriptor} {t : OneofTable}
    (h : m.oneofTable? outer o i = some t) : t.IsOf outer m i o := by
  unfold oneofTable? at h
  split at h
  · cases h
  · cases h
    refine ⟨(sorted_placed m.fields).filter _, fun j f => mem_placedMembers hi, fun exact => ?_⟩
    rw [← map_snd_placedMembers, OneofDescriptor.table_content, List.map_map]
    rfl

variable {outer} {m}

theorem oneofTable?_eq_none_iff {i : Nat} (hi : i < 2 ^ 31) {o : OneofDescriptor} :
    m.oneofTable? outer o i = none ↔
      (∃ f ∈ m.fields, f.IsIn i) ∧ ∀ f ∈ m.fields, f.IsIn i → f.proto3Optional = true := by
  rw [← isSynthetic_members_iff hi, oneofTable?]
  split <;> simp_all

theorem hasTables_oneofTables (few : m.oneofs.length < 2 ^ 31) :
    m.HasTables outer (m.oneofTables outer) := by
  have at? {i : Nat} {t? : Option OneofTable} (h : (m.oneofTables outer)[i]? = some t?) :
      ∃ o, m.oneofs[i]? = some o ∧ m.oneofTable? outer o i = t? := by
    rw [getElem?_oneofTables, Option.map_eq_some_iff] at h
    exact h
  have table {i : Nat} {t : OneofTable} (h : (m.oneofTables outer)[i]? = some (some t)) :
      i < m.oneofs.length ∧ ∃ o, m.oneofs[i]? = some o ∧ t.IsOf outer m i o := by
    obtain ⟨o, ho, ht⟩ := at? h
    have hi : i < m.oneofs.length := (List.getElem?_eq_some_iff.mp ho).1
    exact ⟨hi, o, ho, oneofTable?_isOf outer m (by omega) ht⟩
  constructor
  case length => simp [oneofTables]
  case skipped =>
    intro i hi
    have ho := List.getElem?_eq_getElem hi
    rw [getElem?_oneofTables, ho, Option.map_some, Option.some.injEq,
      oneofTable?_eq_none_iff (by omega)]
  case table => exact fun i t h => (table h).2
  case once =>
    intro j f i hf hi bound shown
    have found : (m.oneofTables outer)[i]? ≠ none := by simp [oneofTables, bound]
    obtain ⟨t?, ht⟩ := Option.ne_none_iff_exists'.mp found
    cases t? with
    | none => exact absurd ht shown
    | some t =>
      obtain ⟨-, o, -, lists⟩ := table ht
      refine ⟨i, ⟨t, ht, (lists.complete j f).mpr ⟨hf, hi⟩⟩, ?_⟩
      rintro k ⟨u, hu, mem⟩
      obtain ⟨-, o', -, lists'⟩ := table hu
      exact ((lists'.complete j f).mp mem).2.unique hi
  case never =>
    intro j f hf outside t ht mem
    obtain ⟨i, hi⟩ := List.mem_iff_getElem?.mp ht
    obtain ⟨bound, o, -, lists⟩ := table hi
    exact outside i bound ((lists.complete j f).mp mem).2

end MessageDescriptor

theorem oneofTables_part_members (s : FileScope) (outer : String) (m : MessageDescriptor)
    (ds : List Declaration) (few : m.oneofs.length < 2 ^ 31) (plain : m.isMapEntry = false)
    (h : (s.messageDeclarations outer m).outcome = .ok ds) :
    ∃ properties inner tables extensions,
      ds = .object (nested outer m.name) properties ::
        (inner.flatten ++ m.enums.map (·.table (nested outer m.name))
          ++ tables.reduceOption.map OneofTable.declaration ++ extensions) ∧
      List.Forall₂ (fun f p => (s.property f).outcome = .ok p) m.fields properties ∧
      List.Forall₂ (fun n part =>
        (s.messageDeclarations (nested outer m.name) n).outcome = .ok part) m.nested inner ∧
      List.Forall₂ (fun f d => (s.extension (nested outer m.name) f).outcome = .ok d)
        m.extensions extensions ∧
      m.HasTables (nested outer m.name) tables := by
  obtain ⟨properties, inner, extensions, hp, hi, he, rfl⟩ :=
    FileScope.messageDeclarations_eq_ok plain h
  refine ⟨properties, inner, m.oneofTables (nested outer m.name), extensions, ?_, hp, hi, he,
    MessageDescriptor.hasTables_oneofTables few⟩
  rw [MessageDescriptor.tables_eq]

def payment : MessageDescriptor where
  name? := some "Payment"
  fields := [
    (FieldDescriptor.ofType "card" 4 .string).withOneofIndex 1,
    ((FieldDescriptor.ofType "note" 1 .string).withOneofIndex 0).asProto3Optional,
    FieldDescriptor.ofType "total" 2 .double,
    ((FieldDescriptor.ofType "stamps" 9 .bytes).withLabel .repeated).withOneofIndex 1,
    (FieldDescriptor.ofType "stray" 3 .bool).withOneofIndex (-1)]
  oneofs := [{ name? := some "_note" }, { name? := some "way" }, { name? := some "rest" }]

def paymentScope : FileScope := ⟨Registry.empty, "payment.proto", .proto3⟩

theorem oneofTables_part_members_payment : ∃ properties tables,
    payment.HasTables "Payment" tables ∧
    (paymentScope.messageDeclarations "" payment).outcome = .ok [.object "Payment" properties,
      .table "Payment_WayCase" [("WAY_NOT_SET", 0), ("CARD", 4), ("STAMPS", 9)],
      .table "Payment_RestCase" [("REST_NOT_SET", 0)]] ∧
    tables.reduceOption.map OneofTable.declaration = [
      .table "Payment_WayCase" [("WAY_NOT_SET", 0), ("CARD", 4), ("STAMPS", 9)],
      .table "Payment_RestCase" [("REST_NOT_SET", 0)]] := by
  have page : (paymentScope.messageDeclarations "" payment).outcome = .ok [.object "Payment"
      [⟨"card", true, .string⟩, ⟨"note", true, .string⟩, ⟨"total", false, .number⟩,
        ⟨"stamps", false, .array .bytes⟩, ⟨"stray", true, .boolean⟩],
      .table "Payment_WayCase" [("WAY_NOT_SET", 0), ("CARD", 4), ("STAMPS", 9)],
      .table "Payment_RestCase" [("REST_NOT_SET", 0)]] := by
    decide +kernel
  obtain ⟨properties, inner, tables, extensions, parts, -, hi, he, has⟩ :=
    oneofTables_part_members paymentScope "" payment _ (by decide) rfl page
  have name : nested "" payment.name = "Payment" := by decide
  cases hi
  cases he
  rw [name] at has parts
  obtain ⟨same, shown⟩ := List.cons.inj parts
  refine ⟨properties, tables, has, ?_, ?_⟩
  · rw [page, same]
  · simpa [payment] using shown.symm

def tagsEntry : MessageDescriptor :=
  { MapSides.entry ⟨⟨.string, none⟩, ⟨.string, none⟩⟩ "TagsEntry" with
    oneofs := [{ name? := some "kind" }] }

def holderFile : FileDescriptor where
  name? := some "holder.proto"
  messages := [{ name? := some "Holder", nested := [tagsEntry] }]

theorem no_table_tagsEntry :
    (generate {} [holderFile] ["holder.proto"]).outcome = .ok [⟨"holder_pb.js",
      "// @flow\n// package: \n// file: holder.proto\n\nexport type Holder = \x7b\n\x7d\n\n"⟩] ∧
    (FileScope.messageDeclarations ⟨Registry.ofFiles [holderFile], "holder.proto", .proto2⟩ "Holder"
      tagsEntry).outcome = .ok [] ∧
    tagsEntry.oneofs.length < 2 ^ 31 ∧
    ∀ tables, tagsEntry.HasTables "Holder_TagsEntry" tables → tables.reduceOption ≠ [] := by
  refine ⟨by decide +kernel, FileScope.messageDeclarations_of_isMapEntry _ _ rfl, by decide, ?_⟩
  rintro tables has
  have memberless : ¬∃ f ∈ tagsEntry.fields, f.IsIn 0 := by decide
  obtain ⟨t?, rfl⟩ := List.length_eq_one_iff.mp has.length
  cases t? with
  | none => exact absurd ((has.skipped 0 (by decide)).mp rfl).1 memberless
  | some t => simp

end FlowSchema
