import FlowSchema.Descriptor.Draft
import FlowSchema.Proofs.Batches
import FlowSchema.Proofs.ExportLines
import FlowSchema.Proofs.Faults

namespace FlowSchema

open Layout Text

namespace Options

def openingBrace (o : Options) : String := if o.exactObjects then "\x7b|" else "\x7b"

def closingBrace (o : Options) : String := if o.exactObjects then "|\x7d" else "\x7d"

def wellKnownImport (o : Options) (dependency : String) : String :=
  "import * as " ++ SourcePath.moduleAlias dependency ++ " from \"" ++ o.wellKnownRoot ++ "/"
    ++ SourcePath.importName dependency ++ "\";"

theorem wellKnownImport_eq (o : Options) (dependency : String) :
    o.wellKnownImport dependency = "import * as " ++ SourcePath.moduleAlias dependency
      ++ " from \"" ++ o.wellKnownRoot ++ "/" ++ SourcePath.importName dependency ++ "\";" := rfl

end Options

def IsObjectEdge (line : String) : Prop :=
  startsWith "export type " line = true ∨ line = "\x7d" ∨ line = "|\x7d"

inductive LineChange (o o' : Options) (dependencies : List String) : String → String → Prop
  | same {line : String} (edge : IsObjectEdge line → o.exactObjects = o'.exactObjects) :
      LineChange o o' dependencies line line
  | opening (differ : o.exactObjects ≠ o'.exactObjects) (name : String) :
      LineChange o o' dependencies ("export type " ++ name ++ " = " ++ o.openingBrace)
        ("export type " ++ name ++ " = " ++ o'.openingBrace)
  | closing (differ : o.exactObjects ≠ o'.exactObjects) :
      LineChange o o' dependencies o.closingBrace o'.closingBrace
  | wellKnownImport (differ : o.wellKnownRoot ≠ o'.wellKnownRoot) {dependency : String}
      (mem : dependency ∈ dependencies)
      (wellKnown : startsWith "google/protobuf/" dependency = true) :
      LineChange o o' dependencies (o.wellKnownImport dependency) (o'.wellKnownImport dependency)

def tableLines (name : String) (constants : List (String × Int32)) : List String :=
  ("export const " ++ name ++ " = Object.freeze(\x7b")
    :: constants.map (fun c => "  " ++ c.1 ++ ": " ++ c.2.toInt.repr ++ ",") ++ ["\x7d);"]

theorem startsWith_append_eq_false {start s : String} {c d : Char}
    (hstart : start.toList.head? = some d) (hs : s.toList.head? = some c) (ne : c ≠ d)
    (t : String) : startsWith start (s ++ t) = false := by
  rw [← Bool.not_eq_true]
  intro h
  obtain ⟨rest, hrest⟩ := List.isPrefixOf_iff_prefix.mp h
  have heads := congrArg List.head? hrest
  rw [String.toList_append, List.head?_append, List.head?_append, hstart, hs] at heads
  exact ne (Option.some.inj heads).symm

theorem startsWith_of_isObjectEdge {line : String} (edge : IsObjectEdge line) :
    startsWith "export type " line = true ∨ startsWith "\x7d" line = true ∨
      startsWith "|\x7d" line = true := by
  rcases edge with edge | rfl | rfl
  · exact .inl edge
  · exact .inr (.inl (by decide))
  · exact .inr (.inr (by decide))

theorem not_isObjectEdge_append {s : String} {c : Char} (head : s.toList.head? = some c)
    (other : c ≠ 'e' ∧ c ≠ '\x7d' ∧ c ≠ '|') (t : String) : ¬IsObjectEdge (s ++ t) := by
  intro edge
  rcases startsWith_of_isObjectEdge edge with start | start | start
  · rw [startsWith_append_eq_false rfl head other.1] at start
    cases start
  · rw [startsWith_append_eq_false rfl head other.2.1] at start
    cases start
  · rw [startsWith_append_eq_false rfl head other.2.2] at start
    cases start

theorem isObjectEdge_opening (o : Options) (name : String) :
    IsObjectEdge ("export type " ++ name ++ " = " ++ o.openingBrace) := by
  left
  rw [String.append_assoc, String.append_assoc, startsWith_append (by decide)]
  decide

theorem isObjectEdge_closing (o : Options) : IsObjectEdge o.closingBrace := by
  right
  unfold Options.closingBrace
  split
  · exact .inr rfl
  · exact .inl rfl

theorem startsWith_wellKnownImport (o : Options) (dependency : String) :
    startsWith "import " (o.wellKnownImport dependency) = true := by
  simp only [Options.wellKnownImport_eq, String.append_assoc]
  rw [startsWith_append (by decide)]
  decide

theorem not_isObjectEdge_import (i : Import) : ¬IsObjectEdge i.text := by
  simp only [Import.text_eq, String.append_assoc]
  exact not_isObjectEdge_append (c := 'i') rfl (by decide) _

theorem not_isObjectEdge_end : ¬IsObjectEdge "\x7d);" := by
  unfold IsObjectEdge
  decide

theorem not_isObjectEdge_blank : ¬IsObjectEdge "" := by
  unfold IsObjectEdge
  decide

theorem not_isObjectEdge_heading (name : String) (constants : List (String × Int32))
    (exact : Bool) : ¬IsObjectEdge ((Declaration.table name constants).heading exact) := by
  intro edge
  rw [Declaration.heading_table, String.append_assoc] at edge
  rcases startsWith_of_isObjectEdge edge with start | start | start <;>
    rw [startsWith_append (by decide)] at start <;> exact absurd start (by decide)

theorem not_isObjectEdge_of_mem_tableLines {name : String} {constants : List (String × Int32)}
    {line : String} (h : line ∈ tableLines name constants) :
    ¬IsObjectEdge line ∧ startsWith "import " line = false := by
  simp only [tableLines, List.cons_append, List.mem_cons, List.mem_append, List.mem_map,
    List.not_mem_nil, or_false] at h
  rcases h with rfl | ⟨c, -, rfl⟩ | rfl
  · refine ⟨not_isObjectEdge_heading name constants true, ?_⟩
    rw [String.append_assoc]
    exact startsWith_append_eq_false (c := 'e') (d := 'i') rfl rfl (by decide) _
  · simp only [String.append_assoc]
    refine ⟨not_isObjectEdge_append (c := ' ') rfl (by decide) _, ?_⟩
    exact startsWith_append_eq_false (c := ' ') (d := 'i') rfl rfl (by decide) _
  · exact ⟨not_isObjectEdge_end, by decide⟩

namespace LineChange

variable {o o' : Options} {dependencies : List String}

theorem of_not_edge {line : String} (h : ¬IsObjectEdge line) :
    LineChange o o' dependencies line line := same fun edge => absurd edge h

theorem forall₂_of_not_edge {ls : List String} (h : ∀ line ∈ ls, ¬IsObjectEdge line) :
    List.Forall₂ (LineChange o o' dependencies) ls ls :=
  List.forall₂_same.mpr fun line hline => of_not_edge (h line hline)

theorem heading (d : Declaration) :
    LineChange o o' dependencies (d.heading o.exactObjects) (d.heading o'.exactObjects) := by
  cases d with
  | object name properties =>
    by_cases h : o.exactObjects = o'.exactObjects
    · rw [← h]
      exact same fun _ => h
    · exact opening h name
  | table name constants => exact of_not_edge (not_isObjectEdge_heading name constants _)

theorem closing_declaration (d : Declaration) :
    LineChange o o' dependencies (d.closing o.exactObjects) (d.closing o'.exactObjects) := by
  cases d with
  | object name properties =>
    by_cases h : o.exactObjects = o'.exactObjects
    · rw [← h]
      exact same fun _ => h
    · exact closing h
  | table name constants => exact of_not_edge not_isObjectEdge_end

theorem layout_declaration (d : Declaration) : List.Forall₂ (LineChange o o' dependencies)
    ((d.layout o.exactObjects).map Piece.content)
    ((d.layout o'.exactObjects).map Piece.content) := by
  -- what stands inside a declaration is indented, so that it is no edge even where it is a brace
  have body : ∀ line ∈ (d.body.map Piece.inner).map Piece.content, ¬IsObjectEdge line := by
    intro line hline
    obtain ⟨p, hp, rfl⟩ := List.mem_map.mp hline
    obtain ⟨s, -, rfl⟩ := List.mem_map.mp hp
    exact not_isObjectEdge_append (c := ' ') rfl (by decide) s
  simp only [Declaration.layout, List.cons_append, List.map_cons, List.map_append]
  exact .cons (heading d) (List.rel_append (forall₂_of_not_edge body)
    (.cons (closing_declaration d) (.cons (of_not_edge not_isObjectEdge_blank) .nil)))

theorem import_text {dependency : String} (file : String) (mem : dependency ∈ dependencies) :
    LineChange o o' dependencies (Import.ofDependency o file dependency).text
      (Import.ofDependency o' file dependency).text := by
  cases known : Import.isWellKnown dependency with
  | false =>
    have eq : Import.ofDependency o file dependency = Import.ofDependency o' file dependency := by
      simp [Import.ofDependency, known]
    rw [eq]
    exact of_not_edge (not_isObjectEdge_import _)
  | true =>
    have text (o : Options) :
        (Import.ofDependency o file dependency).text = o.wellKnownImport dependency := by
      simp only [Import.text_eq, Import.ofDependency, known, if_true, Options.wellKnownImport_eq,
        String.append_assoc]
    by_cases h : o.wellKnownRoot = o'.wellKnownRoot
    · have eq : o.wellKnownImport dependency = o'.wellKnownImport dependency := by
        rw [Options.wellKnownImport_eq, Options.wellKnownImport_eq, h]
      rw [text, text, eq, ← text]
      exact of_not_edge (not_isObjectEdge_import _)
    · rw [text, text]
      exact wellKnownImport h mem known

theorem eq_of_plain {line line' : String} (h : LineChange o o' dependencies line line')
    (plain : ¬IsObjectEdge line ∧ startsWith "import " line = false ∨
      ¬IsObjectEdge line' ∧ startsWith "import " line' = false) : line = line' := by
  cases h with
  | same _ => rfl
  | opening _ name =>
    rcases plain with ⟨edge, -⟩ | ⟨edge, -⟩ <;> exact absurd (isObjectEdge_opening _ name) edge
  | closing _ =>
    rcases plain with ⟨edge, -⟩ | ⟨edge, -⟩ <;> exact absurd (isObjectEdge_closing _) edge
  | wellKnownImport _ _ _ =>
    rcases plain with ⟨-, start⟩ | ⟨-, start⟩ <;>
      · rw [startsWith_wellKnownImport] at start
        cases start

end LineChange

theorem prefix_of_forall₂ {α : Type} {R : α → α → Prop} {xs ls ls' : List α}
    (h : List.Forall₂ R ls ls') (fixed : ∀ x ∈ xs, ∀ y, R x y → x = y) (hp : xs <+: ls) :
    xs <+: ls' := by
  induction xs generalizing ls ls' with
  | nil => exact List.nil_prefix
  | cons x xs ih =>
    obtain ⟨rest, rfl⟩ := hp
    obtain ⟨y, ys, hxy, hrest, rfl⟩ := List.forall₂_cons_left_iff.mp h
    obtain rfl := fixed x List.mem_cons_self y hxy
    have tail := ih hrest (fun x' hx' => fixed x' (List.mem_cons_of_mem x hx')) ⟨rest, rfl⟩
    exact List.cons_prefix_cons.mpr ⟨rfl, tail⟩

theorem tableLines_prefix_iff {o o' : Options} {dependencies ls ls' : List String}
    (h : List.Forall₂ (LineChange o o' dependencies) ls ls') (i : Nat) (name : String)
    (constants : List (String × Int32)) :
    tableLines name constants <+: ls.drop i ↔ tableLines name constants <+: ls'.drop i := by
  have rest := List.forall₂_drop i h
  constructor
  · refine prefix_of_forall₂ rest fun x hx y hxy => ?_
    exact hxy.eq_of_plain (.inl (not_isObjectEdge_of_mem_tableLines hx))
  · refine prefix_of_forall₂ rest.flip fun x hx y hxy => ?_
    exact (hxy.eq_of_plain (.inr (not_isObjectEdge_of_mem_tableLines hx))).symm

namespace FlowModule

theorem ofFile_withOptions (o o' : Options) (r : Registry) (f : FileDescriptor) :
    (ofFile o' r f).outcome =
      (fun m => { m with imports := f.dependencies.map (Import.ofDependency o' f.name) }) <$>
        (ofFile o r f).outcome := by
  rw [ofFile_outcome, ofFile_outcome]
  cases Dialect.ofFile f with
  | error e => rfl
  | ok dialect =>
    simp only [ok_bind, Import.ofDependencies]
    cases Import.checkAliases [] f.dependencies with
    | error e => rfl
    | ok _ =>
      cases (FileScope.fileDeclarations ⟨r, f.name, dialect⟩ f).outcome with
      | error e => rfl
      | ok declarations => rfl

variable {o o' : Options}

theorem lineChange_header (m : FlowModule) (dependencies : List String) :
    List.Forall₂ (LineChange o o' dependencies) (m.header.map Piece.content)
      (m.header.map Piece.content) := by
  apply LineChange.forall₂_of_not_edge
  have comment (s : String) : ¬IsObjectEdge ("// " ++ s) :=
    not_isObjectEdge_append (c := '/') rfl (by decide) s
  simp only [header, List.map_cons, List.map_nil, Piece.content, List.forall_mem_cons]
  exact ⟨comment "@flow", comment ("package: " ++ m.package), comment ("file: " ++ m.file),
    not_isObjectEdge_blank, by simp⟩

theorem lineChange_layout {r : Registry} {f : FileDescriptor}
    {m m' : FlowModule} (h : (ofFile o r f).outcome = .ok m)
    (h' : (ofFile o' r f).outcome = .ok m') :
    List.Forall₂ (LineChange o o' f.dependencies)
      ((m.layout o.exactObjects).map Piece.content)
      ((m'.layout o'.exactObjects).map Piece.content) := by
  rw [ofFile_withOptions o o', h] at h'
  obtain rfl := Except.ok.inj h'
  obtain ⟨dialect, declarations, -, rfl⟩ := ofFile_eq_ok h
  have imports : List.Forall₂ (LineChange o o' f.dependencies)
      ((f.dependencies.map (Import.ofDependency o f.name)).map Import.text)
      ((f.dependencies.map (Import.ofDependency o' f.name)).map Import.text) := by
    simp only [List.map_map, List.forall₂_map_left_iff, List.forall₂_map_right_iff]
    exact List.forall₂_same.mpr fun d hd => LineChange.import_text f.name hd
  have block : List.Forall₂ (LineChange o o' f.dependencies)
      ((importBlock ⟨f.package, f.name, f.dependencies.map (Import.ofDependency o f.name),
        declarations⟩).map Piece.content)
      ((importBlock ⟨f.package, f.name, f.dependencies.map (Import.ofDependency o' f.name),
        declarations⟩).map Piece.content) := by
    simp only [importBlock, List.map_eq_nil_iff]
    split
    · exact .nil
    · simp only [List.map_append, List.map_map] at imports ⊢
      exact List.rel_append imports (.cons (LineChange.of_not_edge not_isObjectEdge_blank) .nil)
  simp only [layout, List.map_append, List.map_flatMap]
  -- the declarations are the same on both sides, it is their layout that differs
  refine List.rel_append (List.rel_append (lineChange_header _ _) block) ?_
  refine List.rel_flatMap (List.forall₂_same.mpr fun d _ => rfl) ?_
  rintro d _ rfl
  exact LineChange.layout_declaration d

theorem lineChange_render {files : List FileDescriptor} {f : FileDescriptor}
    {m m' : FlowModule} (mem : f ∈ files) (clean : ∀ g ∈ files, ∀ s ∈ g.strings, Unbroken s)
    (ho : ∀ s ∈ o.strings, Unbroken s) (ho' : ∀ s ∈ o'.strings, Unbroken s)
    (h : (ofFile o (Registry.ofFiles files) f).outcome = .ok m)
    (h' : (ofFile o' (Registry.ofFiles files) f).outcome = .ok m') :
    List.Forall₂ (LineChange o o' f.dependencies) (lines (m.render o.exactObjects))
      (lines (m'.render o'.exactObjects)) := by
  have registry := Registry.isUnbroken_ofFiles clean
  rw [lines_render h registry ho (clean f mem), lines_render h' registry ho' (clean f mem)]
  exact List.rel_append (lineChange_layout h h')
    (.cons (LineChange.of_not_edge not_isObjectEdge_blank) .nil)

end FlowModule

theorem forall₂_zip_of_common {α β γ : Type} {R : α → β → Prop} {S : α → γ → Prop}
    {T : α → β × γ → Prop} {as : List α} {bs : List β} {cs : List γ} (hr : List.Forall₂ R as bs)
    (hs : List.Forall₂ S as cs) (ht : ∀ a b c, R a b → S a c → T a (b, c)) :
    List.Forall₂ T as (bs.zip cs) := by
  induction hr generalizing cs with
  | nil =>
    cases hs
    exact .nil
  | cons hab _ ih =>
    cases hs with
    | cons hac hcs => exact .cons (ht _ _ _ hab hac) (ih hcs)

/-- Of a request without line breaks, options decide neither whether it is answered nor what is
reported if not. Line by line they change how object types are delimited and where the well-known
types are imported from, and nothing else. -/
theorem generate_lineChange (o o' : Options) (files : List FileDescriptor)
    (requested : List String) (clean : ∀ f ∈ files, ∀ s ∈ f.strings, Unbroken s)
    (ho : ∀ s ∈ o.strings, Unbroken s) (ho' : ∀ s ∈ o'.strings, Unbroken s) :
    (∃ e, (generate o files requested).outcome = .error e ∧
      (generate o' files requested).outcome = .error e) ∨
    ∃ outputs outputs', (generate o files requested).outcome = .ok outputs ∧
      (generate o' files requested).outcome = .ok outputs' ∧
      outputs.length = outputs'.length ∧
      List.Forall₂ (fun name (outs : Output × Output) => outs.1.name = outs.2.name ∧
        (∃ f, findFile files name = .ok f ∧
          List.Forall₂ (LineChange o o' f.dependencies) (lines outs.1.content)
            (lines outs.2.content)) ∧
        ∀ i table constants, tableLines table constants <+: (lines outs.1.content).drop i ↔
          tableLines table constants <+: (lines outs.2.content).drop i)
        requested (outputs.zip outputs') := by
  have failure := failureOf_generate o files requested
  have failure' := failureOf_generate o' files requested
  -- the faults of a request are found without a look at the options
  cases head : (requestFaults files requested).head? with
  | some e =>
    rw [head] at failure failure'
    exact .inl ⟨e, failureOf_eq_some.mp failure, failureOf_eq_some.mp failure'⟩
  | none =>
    rw [head] at failure failure'
    obtain ⟨outputs, ok⟩ := failureOf_eq_none.mp failure
    obtain ⟨outputs', ok'⟩ := failureOf_eq_none.mp failure'
    have each := generate_eq_ok.mp ok
    have each' := generate_eq_ok.mp ok'
    refine .inr ⟨outputs, outputs', ok, ok', each.length_eq.symm.trans each'.length_eq, ?_⟩
    refine forall₂_zip_of_common each each' ?_
    intro name out out' h h'
    obtain ⟨f, m, hf, hm, rfl⟩ := generateFile_eq_ok h
    obtain ⟨f', m', hf', hm', rfl⟩ := generateFile_eq_ok h'
    obtain rfl := Except.ok.inj (hf.symm.trans hf')
    obtain ⟨mem, rfl⟩ := findFile_eq_ok hf
    have change := FlowModule.lineChange_render mem clean ho ho' hm hm'
    exact ⟨rfl, ⟨f, hf, change⟩, tableLines_prefix_iff change⟩

def timestampFile : FileDescriptor where
  name? := some "google/protobuf/timestamp.proto"
  package? := some "google.protobuf"
  messages := [{ name? := some "Timestamp" }]

def eventFile : FileDescriptor where
  name? := some "log/event.proto"
  dependencies := ["google/protobuf/timestamp.proto"]
  messages := [{
    name? := some "Event"
    fields := [
      (FieldDescriptor.ofType "at" 1 .message).withTypeName ".google.protobuf.Timestamp",
      (FieldDescriptor.ofType "kind" 2 .enum).withTypeName ".Kind"] }]
  enums := [EnumDescriptor.ofValues "Kind" [("START", 0), ("STOP", 1)]]

def pinnedExact : Options where
  exactObjects := true
  wellKnownRoot := "@pb"

theorem generate_lineChange_eventFile : ∃ out out',
    (generate {} [timestampFile, eventFile] ["log/event.proto"]).outcome = .ok [out] ∧
    (generate pinnedExact [timestampFile, eventFile] ["log/event.proto"]).outcome = .ok [out'] ∧
    List.Forall₂ (LineChange {} pinnedExact eventFile.dependencies) (lines out.content)
      (lines out'.content) := by
  have change := generate_lineChange {} pinnedExact [timestampFile, eventFile] ["log/event.proto"]
    (by decide) (by decide) (by decide)
  rcases change with ⟨e, failed, -⟩ | ⟨outputs, outputs', ok, ok', length, related⟩
  · have none : failureOf (generate {} [timestampFile, eventFile] ["log/event.proto"]).outcome =
        none := by decide +kernel
    rw [failed] at none
    cases none
  · obtain ⟨out, rest, -, hrest, rfl⟩ := List.forall₂_cons_left_iff.mp (generate_eq_ok.mp ok)
    obtain rfl := List.forall₂_nil_left_iff.mp hrest
    obtain ⟨out', rfl⟩ := List.length_eq_one_iff.mp length.symm
    obtain ⟨⟨-, ⟨f, found, changed⟩, -⟩, -⟩ := List.forall₂_cons.mp related
    have event : findFile [timestampFile, eventFile] "log/event.proto" = .ok eventFile := rfl
    obtain rfl := Except.ok.inj (found.symm.trans event)
    exact ⟨out, out', ok, ok', changed⟩

end FlowSchema
