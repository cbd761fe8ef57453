import FlowSchema.Proofs.Page
import Mathlib

namespace FlowSchema

open Identifier Layout Text

def IsPlainName (s : String) : Prop := ∀ c ∈ s.toList, c ≠ '\n' ∧ c ≠ ':' ∧ c ≠ ' '

instance (s : String) : Decidable (IsPlainName s) := List.decidableBAll _ s.toList

theorem IsPlainName.unbroken {s : String} (h : IsPlainName s) : Unbroken s :=
  fun hs => (h _ hs).1 rfl

theorem IsPlainName.nested {outer s : String} (ho : IsPlainName outer) (h : IsPlainName s) :
    IsPlainName (nested outer s) := by
  rw [Identifier.nested]
  split
  · exact h
  · intro c hc
    simp only [String.toList_append, List.mem_append] at hc
    rcases hc with (hc | hc) | hc
    · exact ho c hc
    · obtain rfl := List.mem_singleton.mp hc
      decide
    · exact h c hc

theorem Layout.unbroken_margin (depth : Nat) : Unbroken (margin depth) := by
  simp [Unbroken, margin, String.toList_join]

theorem Layout.Piece.unbroken_indented {p : Piece} (h : Unbroken p.content) (depth : Nat) :
    Unbroken (p.indented depth) := by
  cases p with
  | line s => exact unbroken_append.mpr ⟨unbroken_margin depth, h⟩
  | inner s =>
    rw [Piece.indented, String.append_assoc]
    exact unbroken_append.mpr ⟨unbroken_margin depth, h⟩
  | text s => exact h
  | blank => exact h

structure WrittenTable where
  name : String
  constants : List (String × Int)
deriving DecidableEq

namespace WrittenTable

def values (t : WrittenTable) : List Int := t.constants.map Prod.snd

def unindented (line : String) : List Char := line.toList.dropWhile (· = ' ')

def nameOf? (line : String) : Option String := do
  let rest ← "export const ".toList.isPrefixOf? (unindented line)
  let name ← " = Object.freeze(\x7b".toList.isSuffixOf? rest
  return String.ofList name

def constantOf? (line : String) : Option (String × Int) := do
  let rest ← ": ".toList.isPrefixOf? ((unindented line).dropWhile (· ≠ ':'))
  let digits ← ",".toList.isSuffixOf? rest
  let number ← (String.ofList digits).toInt?
  return (String.ofList ((unindented line).takeWhile (· ≠ ':')), number)

def isClosing (line : String) : Bool := unindented line = "\x7d);".toList

/-- Reads a table off a text that declares it and nothing else, at any depth. -/
def ofText? (text : String) : Option WrittenTable :=
  match lines text with
  | [] => none
  | heading :: rest =>
    match rest.dropWhile (!isClosing ·) with
    | [_, "", ""] => do
      let name ← nameOf? heading
      let constants ← (rest.takeWhile (!isClosing ·)).mapM constantOf?
      return ⟨name, constants⟩
    | _ => none

section

variable {depth : Nat} {name : String} (plain : IsPlainName name)

theorem unindented_margin (depth : Nat) (s : String) :
    unindented (margin depth ++ s) = s.toList.dropWhile (· = ' ') := by
  have blanks : ∀ c ∈ (margin depth).toList, decide (c = ' ') = true := by
    simp [margin, String.toList_join]
  rw [unindented, String.toList_append, List.dropWhile_append_of_pos blanks]

theorem margin_succ (depth : Nat) : margin depth ++ "  " = margin (depth + 1) := by
  rw [margin, margin, List.replicate_succ', String.join_append]
  simp

theorem unindented_of_head {s : String} {c : Char} {rest : List Char} (h : s.toList = c :: rest)
    (ne : c ≠ ' ') (depth : Nat) : unindented (margin depth ++ s) = s.toList := by
  rw [unindented_margin, h, List.dropWhile_cons_of_neg (by simpa using ne)]

theorem nameOf?_heading (depth : Nat) (name : String) :
    nameOf? (margin depth ++ ("export const " ++ name ++ " = Object.freeze(\x7b")) =
      some name := by
  have text : ("export const " ++ name ++ " = Object.freeze(\x7b").toList =
      "export const ".toList ++ (name.toList ++ " = Object.freeze(\x7b".toList) := by
    simp only [String.toList_append, List.append_assoc]
  have start := List.isPrefixOf?_eq_some_iff_append_eq.mpr text.symm
  have rest := List.isSuffixOf?_eq_some_iff_append_eq.mpr
    (rfl : name.toList ++ " = Object.freeze(\x7b".toList = _)
  have line := unindented_of_head text (by decide) depth
  rw [nameOf?, line, start, Option.bind_eq_bind, Option.bind_some, rest, Option.bind_some,
    String.ofList_toList]
  rfl

include plain

theorem unindented_constant (depth : Nat) (number : Int) :
    unindented (margin depth ++ "  " ++ (name ++ ": " ++ number.repr ++ ",")) =
      name.toList ++ (": ".toList ++ (number.repr.toList ++ ",".toList)) := by
  have text : (name ++ ": " ++ number.repr ++ ",").toList =
      name.toList ++ (": ".toList ++ (number.repr.toList ++ ",".toList)) := by
    simp only [String.toList_append, List.append_assoc]
  rw [margin_succ, ← text]
  cases hn : name.toList with
  | nil =>
    rw [hn] at text
    exact unindented_of_head text (by decide) _
  | cons c rest =>
    rw [hn] at text
    exact unindented_of_head text (plain c (by simp [hn])).2.2 _

theorem constantOf?_line (depth : Nat) (number : Int) :
    constantOf? (margin depth ++ "  " ++ (name ++ ": " ++ number.repr ++ ",")) =
      some (name, number) := by
  have before : ∀ c ∈ name.toList, decide (c ≠ ':') = true := by
    intro c hc
    exact decide_eq_true (plain c hc).2.1
  have rest := List.isPrefixOf?_eq_some_iff_append_eq.mpr
    (rfl : ": ".toList ++ (number.repr.toList ++ ",".toList) = _)
  have digits := List.isSuffixOf?_eq_some_iff_append_eq.mpr
    (rfl : number.repr.toList ++ ",".toList = _)
  have colon : ": ".toList = [':', ' '] := by decide
  rw [constantOf?, unindented_constant plain, List.dropWhile_append_of_pos before,
    List.takeWhile_append_of_pos before, colon, List.cons_append,
    List.dropWhile_cons_of_neg (by decide), List.takeWhile_cons_of_neg (by decide),
    ← List.cons_append, ← colon, rest, Option.bind_eq_bind, Option.bind_some, digits,
    Option.bind_some, String.ofList_toList, Int.toInt?_repr, List.append_nil,
    String.ofList_toList]
  rfl

theorem isClosing_constant (depth : Nat) (number : Int) :
    isClosing (margin depth ++ "  " ++ (name ++ ": " ++ number.repr ++ ",")) = false := by
  rw [isClosing, unindented_constant plain, decide_eq_false_iff_not]
  intro closing
  have colon : ':' ∈ "\x7d);".toList := by
    rw [← closing]
    simp
  exact absurd colon (by decide)

end

theorem isClosing_margin (depth : Nat) : isClosing (margin depth ++ "\x7d);") = true := by
  rw [isClosing, unindented_of_head (by decide : "\x7d);".toList = ['\x7d', ')', ';']) (by decide)]
  exact decide_eq_true rfl

theorem mapM_constantOf?_lines {constants : List (String × Int32)}
    (plain : ∀ c ∈ constants, IsPlainName c.1) (depth : Nat) :
    (constants.map fun c => margin depth ++ "  " ++ (c.1 ++ ": " ++ c.2.toInt.repr ++ ",")).mapM
      constantOf? = some (constants.map fun c => (c.1, c.2.toInt)) := by
  induction constants with
  | nil => rfl
  | cons c constants ih =>
    obtain ⟨first, rest⟩ := List.forall_mem_cons.mp plain
    rw [List.map_cons, List.mapM_cons, constantOf?_line first, ih rest]
    rfl

theorem lines_table {name : String} {constants : List (String × Int32)}
    (plain : IsPlainName name) (all : ∀ c ∈ constants, IsPlainName c.1) (exact : Bool)
    (depth : Nat) : lines (render depth ((Declaration.table name constants).layout exact)) =
      (margin depth ++ ("export const " ++ name ++ " = Object.freeze(\x7b"))
        :: (constants.map fun c => margin depth ++ "  " ++ (c.1 ++ ": " ++ c.2.toInt.repr ++ ","))
        ++ [margin depth ++ "\x7d);", "", ""] := by
  have unbroken : (Declaration.table name constants).IsUnbroken :=
    Declaration.isUnbroken_table plain.unbroken fun c hc => (all c hc).unbroken
  have single : ∀ p ∈ (Declaration.table name constants).layout exact,
      lines (p.indented depth) = [p.indented depth] := by
    intro p hp
    exact lines_of_unbroken (p.unbroken_indented (unbroken.layout exact p hp) depth)
  rw [lines_render_indented (Declaration.endsLine_layout exact _),
    List.flatMap_congr single, ← List.map_eq_flatMap, Declaration.layout]
  simp only [List.cons_append, List.append_assoc, List.map_cons, List.map_append, List.map_map,
    Declaration.body]
  rfl

theorem ofText?_table {name : String} {constants : List (String × Int32)}
    (plain : IsPlainName name) (all : ∀ c ∈ constants, IsPlainName c.1) (exact : Bool)
    (depth : Nat) : ofText? (render depth ((Declaration.table name constants).layout exact)) =
      some ⟨name, constants.map fun c => (c.1, c.2.toInt)⟩ := by
  have inside : ∀ line ∈ constants.map fun c =>
      margin depth ++ "  " ++ (c.1 ++ ": " ++ c.2.toInt.repr ++ ","),
      (!isClosing line) = true := by
    intro line hline
    obtain ⟨c, hc, rfl⟩ := List.mem_map.mp hline
    rw [isClosing_constant (all c hc), Bool.not_false]
  have closing : ¬(!isClosing (margin depth ++ "\x7d);")) = true := by
    rw [isClosing_margin]
    decide
  rw [ofText?, lines_table plain all]
  simp only [List.cons_append]
  rw [List.dropWhile_append_of_pos inside, List.takeWhile_append_of_pos inside,
    List.dropWhile_cons_of_neg (p := (!isClosing ·)) closing,
    List.takeWhile_cons_of_neg (p := (!isClosing ·)) closing, List.append_nil]
  simp only [nameOf?_heading, mapM_constantOf?_lines all]
  rfl

end WrittenTable

def EnumDescriptor.page (depth : Nat) (exact : Bool) (outer : String) (e : EnumDescriptor) :
    Except Failure String :=
  (fun d => render depth (d.layout exact)) <$> (e.declaration outer).outcome

theorem EnumDescriptor.page_eq (depth : Nat) (exact : Bool) (outer : String)
    (e : EnumDescriptor) :
    e.page depth exact outer = .ok (render depth ((e.table outer).layout exact)) := by
  rw [page, declaration_outcome]
  rfl

theorem EnumDescriptor.ofText?_page {outer : String} {e : EnumDescriptor}
    (ho : IsPlainName outer) (plain : ∀ s ∈ e.strings, IsPlainName s) (depth : Nat)
    (exact : Bool) : ∃ text, e.page depth exact outer = .ok text ∧
      WrittenTable.ofText? text =
        some ⟨nested outer e.name, e.values.map fun v => (v.name, v.number.toInt)⟩ := by
  have empty : IsPlainName "" := by decide
  obtain ⟨name, values⟩ := forall_strings.mp plain
  refine ⟨_, e.page_eq depth exact outer, ?_⟩
  rw [table, WrittenTable.ofText?_table, List.map_map]
  · rfl
  · exact ho.nested (getD_of_strings empty name)
  · intro c hc
    obtain ⟨v, hv, rfl⟩ := List.mem_map.mp hc
    exact getD_of_strings empty (values v hv)

theorem enumTables_read_back (depth : Nat) (exact : Bool) (outer outer' : String)
    (e e' : EnumDescriptor) (ho : IsPlainName outer) (ho' : IsPlainName outer')
    (plain : ∀ s ∈ e.strings, IsPlainName s) (plain' : ∀ s ∈ e'.strings, IsPlainName s)
    (same : e.page depth exact outer = e'.page depth exact outer') :
    nested outer e.name = nested outer' e'.name ∧
    (e.values.map fun v => (v.name, v.number)) = (e'.values.map fun v => (v.name, v.number)) ∧
    ∃ text table, e.page depth exact outer = .ok text ∧
      WrittenTable.ofText? text = some table ∧ table.name = nested outer e.name ∧
      table.constants = (e.values.map fun v => (v.name, v.number.toInt)) ∧
      ∀ n : Int, n ∈ table.values ↔ ∃ v ∈ e.values, v.number.toInt = n := by
  obtain ⟨text, page, read⟩ := e.ofText?_page ho plain depth exact
  obtain ⟨text', page', read'⟩ := e'.ofText?_page ho' plain' depth exact
  obtain rfl : text = text' := Except.ok.inj (page.symm.trans (same.trans page'))
  obtain ⟨names, constants⟩ := WrittenTable.mk.inj (Option.some.inj (read.symm.trans read'))
  have numbers : Function.Injective fun c : String × Int32 => (c.1, c.2.toInt) := by
    intro c d h
    obtain ⟨name, number⟩ := Prod.mk.inj h
    exact Prod.ext name (Int32.toInt_inj.mp number)
  refine ⟨names, ?_, text, _, page, read, rfl, rfl, fun n => ?_⟩
  · apply numbers.list_map
    rw [List.map_map, List.map_map]
    exact constants
  · simp [WrittenTable.values]

def innerLevel : EnumDescriptor where
  name? := some "Level"
  values := [⟨some "NONE", none⟩, ⟨some "LOW", some (-2147483648)⟩,
    ⟨some "HIGH", some 2147483647⟩, ⟨some "TOP", some 2147483647⟩]

def flatLevel : EnumDescriptor where
  name? := some "Gauge_Level"
  values := [⟨some "NONE", some 0⟩, ⟨some "LOW", some (-2147483648)⟩,
    ⟨some "HIGH", some 2147483647⟩, ⟨some "TOP", some 2147483647⟩]

theorem enumTables_read_back_innerLevel :
    innerLevel.page 1 false "Gauge" = flatLevel.page 1 false "" ∧
    (innerLevel.values.map fun v => (v.name, v.number)) =
      (flatLevel.values.map fun v => (v.name, v.number)) ∧
    ∃ text table, innerLevel.page 1 false "Gauge" = .ok text ∧
      WrittenTable.ofText? text = some table ∧ table.name = "Gauge_Level" ∧
      table.constants =
        [("NONE", 0), ("LOW", -2147483648), ("HIGH", 2147483647), ("TOP", 2147483647)] ∧
      (-2147483648 : Int) ∈ table.values := by
  have same : innerLevel.page 1 false "Gauge" = flatLevel.page 1 false "" := by decide +kernel
  obtain ⟨-, values, text, table, page, read, name, constants, numbers⟩ :=
    enumTables_read_back 1 false "Gauge" "" innerLevel flatLevel (by decide) (by decide) (by decide)
      (by decide) same
  refine ⟨same, values, text, table, page, read, name, constants, (numbers _).mpr ?_⟩
  exact ⟨⟨some "LOW", some (-2147483648)⟩, by simp [innerLevel], by decide⟩

end FlowSchema
