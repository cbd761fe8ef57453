import FlowSchema.FlowModule
import Mathlib.Data.List.Infix

namespace FlowSchema

namespace Text

def Unbroken (s : String) : Prop := '\n' ∉ s.toList

instance (s : String) : Decidable (Unbroken s) := inferInstanceAs (Decidable ('\n' ∉ s.toList))

def lines (s : String) : List String := (s.toList.splitOn '\n').map String.ofList

@[simp] theorem unbroken_append {s t : String} : Unbroken (s ++ t) ↔ Unbroken s ∧ Unbroken t := by
  simp [Unbroken]

@[simp] theorem unbroken_ofList {s : List Char} : Unbroken (String.ofList s) ↔ '\n' ∉ s := by
  simp [Unbroken]

theorem lines_append_break (s t : String) : lines (s ++ "\n" ++ t) = lines s ++ lines t := by
  have split : (s ++ "\n" ++ t).toList.splitOn '\n' =
      s.toList.splitOn '\n' ++ t.toList.splitOn '\n' := by
    rw [String.toList_append, String.toList_append, List.append_assoc]
    exact List.splitOn_append_cons_self s.toList t.toList
  rw [lines, split, List.map_append]
  rfl

theorem lines_of_unbroken {s : String} (h : Unbroken s) : lines s = [s] := by
  rw [lines, List.splitOn_eq_singleton h, List.map_singleton, String.ofList_toList]

def startsWith (start line : String) : Bool := start.toList.isPrefixOf line.toList

def beginsWithLetter (line : String) : Bool := line.toList.head?.any Char.isAlpha

theorem startsWith_append {start s : String} (h : start.toList.length ≤ s.toList.length)
    (t : String) : startsWith start (s ++ t) = startsWith start s := by
  rw [Bool.eq_iff_iff, startsWith, startsWith, List.isPrefixOf_iff_prefix,
    List.isPrefixOf_iff_prefix, String.toList_append, List.isPrefix_append_of_length h]

theorem beginsWithLetter_append {s : String} (h : s ≠ "") (t : String) :
    beginsWithLetter (s ++ t) = beginsWithLetter s := by
  have ne : s.toList ≠ [] := by simpa using h
  rw [beginsWithLetter, beginsWithLetter, String.toList_append, List.head?_append_of_ne_nil _ ne]

theorem beginsWithLetter_of_startsWith {start line : String}
    (letter : beginsWithLetter start = true) (h : startsWith start line = true) :
    beginsWithLetter line = true := by
  obtain ⟨rest, hrest⟩ := List.isPrefixOf_iff_prefix.mp h
  have ne : start.toList ≠ [] := by
    intro he
    simp [beginsWithLetter, he] at letter
  rwa [beginsWithLetter, ← hrest, List.head?_append_of_ne_nil _ ne]

end Text

open Text

namespace Layout

def Piece.content : Piece → String
  | .line s => s
  | .inner s => "  " ++ s
  | .text s => s
  | .blank => ""

def Piece.EndsLine (p : Piece) : Prop := ∀ s, p ≠ .text s

def Piece.indented (depth : Nat) : Piece → String
  | .line s => margin depth ++ s
  | .inner s => margin depth ++ "  " ++ s
  | .text s => s
  | .blank => ""

theorem Piece.indented_zero (p : Piece) : p.indented 0 = p.content := by
  cases p with
  | line s | inner s | text s | blank => rfl

theorem Piece.render_eq {p : Piece} (h : p.EndsLine) (depth : Nat) :
    p.render depth = p.indented depth ++ "\n" := by
  cases p with
  | text s => exact absurd rfl (h s)
  | line s | inner s | blank => rfl

theorem lines_render_indented {ps : List Piece} (h : ∀ p ∈ ps, p.EndsLine) (depth : Nat) :
    lines (render depth ps) = ps.flatMap (fun p => lines (p.indented depth)) ++ [""] := by
  induction ps with
  | nil => rfl
  | cons p ps ih =>
    rw [render_cons, Piece.render_eq (h p List.mem_cons_self), lines_append_break,
      ih fun q hq => h q (List.mem_cons_of_mem p hq), List.flatMap_cons, List.append_assoc]

theorem lines_render {ps : List Piece} (h : ∀ p ∈ ps, p.EndsLine) :
    lines (render 0 ps) = ps.flatMap (fun p => lines p.content) ++ [""] := by
  simp only [lines_render_indented h, Piece.indented_zero]

theorem lines_render_of_unbroken {ps : List Piece} (h : ∀ p ∈ ps, p.EndsLine)
    (unbroken : ∀ p ∈ ps, Unbroken p.content) :
    lines (render 0 ps) = ps.map Piece.content ++ [""] := by
  rw [lines_render h, List.map_eq_flatMap,
    List.flatMap_congr fun p hp => lines_of_unbroken (unbroken p hp)]

theorem mem_lines_render {ps : List Piece} {p : Piece} (h : ∀ q ∈ ps, q.EndsLine) (hp : p ∈ ps)
    (unbroken : Unbroken p.content) : p.content ∈ lines (render 0 ps) := by
  rw [lines_render h]
  refine List.mem_append_left _ (List.mem_flatMap.mpr ⟨p, hp, ?_⟩)
  rw [lines_of_unbroken unbroken]
  exact List.mem_singleton_self _

end Layout

open Layout

namespace Declaration

theorem heading_object (exact : Bool) (name : String) (properties : List Property) :
    (object name properties).heading exact =
      "export type " ++ name ++ " = " ++ (if exact then "\x7b|" else "\x7b") := rfl

theorem heading_table (exact : Bool) (name : String) (constants : List (String × Int32)) :
    (table name constants).heading exact =
      "export const " ++ name ++ " = Object.freeze(\x7b" := rfl

theorem endsLine_layout (exact : Bool) (d : Declaration) : ∀ p ∈ d.layout exact, p.EndsLine := by
  simp only [layout, Piece.EndsLine]
  rintro p hp s rfl
  simp at hp

theorem letters_layout (exact : Bool) (d : Declaration) :
    ((d.layout exact).map Piece.content).filter beginsWithLetter = [d.heading exact] := by
  have heading : beginsWithLetter (d.heading exact) = true := by
    cases d with
    | object name _ | table name _ =>
      simp only [heading_object, heading_table, String.append_assoc]
      rw [beginsWithLetter_append (by decide)]
      decide
  have body : ((d.body.map Piece.inner).map Piece.content).filter beginsWithLetter = [] := by
    rw [List.filter_eq_nil_iff]
    intro s hs
    obtain ⟨p, hp, rfl⟩ := List.mem_map.mp hs
    obtain ⟨t, -, rfl⟩ := List.mem_map.mp hp
    rw [Piece.content, beginsWithLetter_append (by decide)]
    decide
  have closing : [d.closing exact, ""].filter beginsWithLetter = [] := by
    cases d <;> cases exact <;> simp only [Declaration.closing, Bool.false_eq_true, ↓reduceIte] <;>
      decide
  rw [layout, List.cons_append, List.map_cons, List.map_append, List.filter_cons, Piece.content,
    if_pos heading, List.filter_append, body, List.nil_append]
  exact congrArg _ closing

end Declaration

theorem Import.text_eq (i : Import) :
    i.text = "import * as " ++ i.moduleAlias ++ " from \"" ++ i.specifier ++ "\";" := rfl

namespace FlowModule

variable (exact : Bool) (m : FlowModule)

theorem endsLine_layout : ∀ p ∈ m.layout exact, p.EndsLine := by
  simp only [layout, header, importBlock, List.mem_append, List.mem_flatMap]
  rintro p ((hp | hp) | ⟨d, -, hp⟩) s rfl
  · simp at hp
  · split at hp <;> simp at hp
  · exact d.endsLine_layout exact _ hp s rfl

theorem letters_layout : ((m.layout exact).map Piece.content).filter beginsWithLetter =
    m.imports.map Import.text ++ m.declarations.map (Declaration.heading exact) := by
  have header : (m.header.map Piece.content).filter beginsWithLetter = [] := by
    have package := beginsWithLetter_append (show "// package: " ≠ "" by decide) m.package
    have file := beginsWithLetter_append (show "// file: " ≠ "" by decide) m.file
    simp only [FlowModule.header, List.map_cons, List.map_nil, Piece.content, List.filter_cons,
      package, file]
    rfl
  have text (i : Import) : beginsWithLetter i.text = true := by
    simp only [Import.text_eq, String.append_assoc]
    rw [beginsWithLetter_append (by decide)]
    decide
  have imports : (m.importBlock.map Piece.content).filter beginsWithLetter =
      m.imports.map Import.text := by
    unfold importBlock
    split
    · rename_i h
      rw [h]
      rfl
    · rw [List.map_append, List.map_map, List.filter_append]
      exact (List.append_nil _).trans (List.filter_eq_self.mpr (by simp [Piece.content, text]))
  simp only [layout, List.map_append, List.filter_append, header, imports, List.nil_append,
    List.map_flatMap, List.filter_flatMap, Declaration.letters_layout]
  rw [← List.map_eq_flatMap]

theorem startsWith_layout {start : String} (letter : beginsWithLetter start = true) :
    ((m.layout exact).map Piece.content).filter (startsWith start) =
      (m.imports.map Import.text ++ m.declarations.map (Declaration.heading exact)).filter
        (startsWith start) := by
  rw [← letters_layout, List.filter_filter]
  refine List.filter_congr fun line _ => ?_
  cases h : startsWith start line with
  | false => rfl
  | true => rw [beginsWithLetter_of_startsWith letter h, Bool.true_and]

theorem exports_layout : ((m.layout exact).map Piece.content).filter (startsWith "export ") =
    m.declarations.map (Declaration.heading exact) := by
  have text (i : Import) : startsWith "export " i.text = false := by
    simp only [Import.text_eq, String.append_assoc]
    rw [startsWith_append (by decide)]
    decide
  have heading (d : Declaration) : startsWith "export " (d.heading exact) = true := by
    cases d with
    | object name _ | table name _ =>
      simp only [Declaration.heading_object, Declaration.heading_table, String.append_assoc]
      rw [startsWith_append (by decide)]
      decide
  rw [startsWith_layout exact m (by decide), List.filter_append,
    List.filter_eq_nil_iff.mpr (by simp [text]), List.filter_eq_self.mpr (by simp [heading]),
    List.nil_append]

theorem imports_layout : ((m.layout exact).map Piece.content).filter (startsWith "import ") =
    m.imports.map Import.text := by
  have text (i : Import) : startsWith "import " i.text = true := by
    simp only [Import.text_eq, String.append_assoc]
    rw [startsWith_append (by decide)]
    decide
  have heading (d : Declaration) : startsWith "import " (d.heading exact) = false := by
    cases d with
    | object name _ | table name _ =>
      simp only [Declaration.heading_object, Declaration.heading_table, String.append_assoc]
      rw [startsWith_append (by decide)]
      decide
  rw [startsWith_layout exact m (by decide), List.filter_append,
    List.filter_eq_self.mpr (by simp [text]), List.filter_eq_nil_iff.mpr (by simp [heading]),
    List.append_nil]

end FlowModule

end FlowSchema
