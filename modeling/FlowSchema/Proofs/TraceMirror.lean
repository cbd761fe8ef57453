import FlowSchema.Proofs.Walks

namespace FlowSchema

open Layout Text Traced
open MessageDescriptor (Visible)

/-- The records of a requested file beside what is generated for it. They are the record of the
file itself and those of one walk through it, and the lines of the walk are the last ones of the
content. The records of the walk that are not of fields are one for each visit, and the lines of the
content that export something are one for each visit that is not to a map entry. -/
inductive IsMirrored (o : Options) (files : List FileDescriptor) (name : String) :
    Output → List Record → Prop
  | file {f : FileDescriptor} {d : Dialect} {content : String} {front page : List String}
      {walk : List Record} (found : findFile files name = .ok f) (dialect : Dialect.ofFile f = .ok d)
      (walked : (FileScope.mk (Registry.ofFiles files) f.name d).Walk o.exactObjects f.visits walk
        page)
      (written : lines content = front ++ page ++ [""])
      (declared : walk.filter Record.declares = f.visits.map Visit.record)
      (exported : (lines content).filter (startsWith "export ") =
        (Visit.exports f.visits).map (Export.line o.exactObjects)) :
      IsMirrored o files name ⟨SourcePath.outputName name, content⟩
        (.file f.name f.package d :: walk)

theorem FlowModule.ofFile_eq_mk {o : Options} {r : Registry} {f : FileDescriptor} {m : FlowModule}
    {log : List Record} (h : FlowModule.ofFile o r f = ⟨log, .ok m⟩) :
    ∃ d walk, Dialect.ofFile f = .ok d ∧ log = .file f.name f.package d :: walk ∧
      (FileScope.mk r f.name d).fileDeclarations f = ⟨walk, .ok m.declarations⟩ := by
  simp only [ofFile, lift_bind_eq_mk, record_bind_eq_mk] at h
  obtain ⟨d, dialect, _, ⟨imports, -, h⟩, rfl⟩ := h
  obtain ⟨declarations, walk, _, hwalk, hm, rfl⟩ := bind_eq_mk.mp h
  obtain ⟨rfl, rfl⟩ := pure_eq_mk.mp hm
  exact ⟨d, walk, dialect, by rw [List.append_nil], hwalk⟩

theorem FlowModule.lines_render_page {o : Options} {r : Registry} {f : FileDescriptor}
    {m : FlowModule} (h : (FlowModule.ofFile o r f).outcome = .ok m) (hr : r.IsUnbroken)
    (ho : ∀ s ∈ o.strings, Unbroken s) (clean : ∀ s ∈ f.strings, Unbroken s) :
    lines (m.render o.exactObjects) = (m.header ++ m.importBlock).map Piece.content
      ++ m.declarations.flatMap (Declaration.written o.exactObjects) ++ [""] := by
  rw [lines_render h hr ho clean, layout, List.map_append, List.map_flatMap]
  rfl

section

variable {o : Options} {files : List FileDescriptor} (ho : ∀ s ∈ o.strings, Unbroken s)
  (clean : ∀ g ∈ files, ∀ s ∈ g.strings, Unbroken s)
  (named : ∀ f ∈ files, ∀ m, Visible f.messages m → m.name ≠ "")
include ho clean named

theorem isMirrored_generateFile {name : String} {out : Output} {log : List Record}
    (h : generateFile o (Registry.ofFiles files) files name = ⟨log, .ok out⟩) :
    IsMirrored o files name out log := by
  obtain ⟨f, found, h⟩ := lift_bind_eq_mk.mp h
  obtain ⟨m, log, _, hm, hout, rfl⟩ := bind_eq_mk.mp h
  obtain ⟨rfl, rfl⟩ := pure_eq_mk.mp hout
  have mem : f ∈ files := (findFile_eq_ok found).1
  have unbroken := Registry.isUnbroken_ofFiles clean
  have outcome := congrArg Traced.outcome hm
  obtain ⟨d, walk, dialect, rfl, declarations⟩ := FlowModule.ofFile_eq_mk hm
  have walked := FileScope.walk_file o.exactObjects declarations (named f mem)
  have page := FlowModule.lines_render_page outcome unbroken ho (clean f mem)
  rw [List.append_nil]
  refine .file found dialect walked page walked.declared ?_
  rw [f.exports_visits]
  exact FlowModule.exportLines_render outcome unbroken ho (clean f mem) (named f mem)

end

def depotFile : FileDescriptor where
  name? := some "depot.proto"
  package? := some "depot"
  dialect? := some "proto3"
  messages := [{
    name? := some "Depot"
    fields := [
      ((FieldDescriptor.ofType "stock" 1 .message).withLabel .repeated).withTypeName
        ".depot.Depot.StockEntry",
      { (FieldDescriptor.ofType "note" 2 .string).withOneofIndex 1 with
        proto3Optional? := some true },
      (FieldDescriptor.ofType "owner_name" 3 .string).withOneofIndex 0]
    nested := [
      MapSides.entry ⟨⟨.string, none⟩, ⟨.int32, none⟩⟩ "StockEntry",
      { name? := some "Bay", enums := [{ name? := some "Side" }] }]
    oneofs := [{ name? := some "owner" }, { name? := some "_note" }]
    extensions := [FieldDescriptor.ofType "paint_color" 100 .string] }]
  enums := [{ name? := some "Region" }]
  extensions := [FieldDescriptor.ofType "opened" 101 .bool]

end FlowSchema
