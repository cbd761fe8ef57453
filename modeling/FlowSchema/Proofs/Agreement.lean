import FlowSchema.Descriptor.Draft
import FlowSchema.Proofs.ExportLines
import FlowSchema.Proofs.Mentions
import FlowSchema.Proofs.Targets

namespace FlowSchema

open Text

theorem generateFile_of_mem {o : Options} {r : Registry} {files : List FileDescriptor}
    {f : FileDescriptor} {out : Output} (distinct : (files.map (·.name)).Nodup) (hf : f ∈ files)
    (h : (generateFile o r files f.name).outcome = .ok out) :
    ∃ m, (FlowModule.ofFile o r f).outcome = .ok m ∧ out.content = m.render o.exactObjects := by
  obtain ⟨g, m, hg, hm, rfl⟩ := generateFile_eq_ok h
  obtain ⟨mem, name⟩ := findFile_eq_ok hg
  obtain rfl := List.inj_on_of_nodup_map distinct mem hf name
  exact ⟨m, hm, rfl⟩

def FileDescriptor.qualify (f g : FileDescriptor) (name : String) : String :=
  if g.name = f.name then name else SourcePath.moduleAlias g.name ++ "." ++ name

structure Agrees (o : Options) (f g : FileDescriptor) (content : String) (u : TypeUse)
    (mention : Mention) : Prop where
  message : ∀ d ∈ g.declaredMessages, u.type ≠ .enum → d.1 = u.name →
    ∃ target, mention = .object target ∧ target.text = f.qualify g (d.1.within g.package) ∧
      (Export.type (d.1.within g.package)).line o.exactObjects ∈ lines content
  enum : ∀ d ∈ g.declaredEnums, u.type = .enum → d.1 = u.name →
    ∃ target, mention = .valuesOf target ∧ target.text = f.qualify g (d.1.within g.package) ∧
      (Export.const (d.1.within g.package)).line o.exactObjects ∈ lines content

def ReferencesAgree (o : Options) (files : List FileDescriptor) (f g : FileDescriptor)
    (outF outG : Output) : Prop :=
  ∃ m, (FlowModule.ofFile o (Registry.ofFiles files) f).outcome = .ok m ∧
    outF.content = m.render o.exactObjects ∧
    List.Forall₂ (Agrees o f g outG.content) (f.uses (Registry.ofFiles files)) m.mentions

theorem FileScope.reference_text {s : FileScope} {f g : FileDescriptor} (hs : s.file = f.name)
    (n : QualifiedName) :
    (s.reference g.name g.package n).text = f.qualify g (n.within g.package) := by
  rw [reference, hs, FileDescriptor.qualify]
  split
  · rfl
  · rfl

theorem references_agree {o : Options} {files : List FileDescriptor} {f g : FileDescriptor}
    {outF outG : Output} (wf : WellFormed files) (sides : PlainSides files) (hf : f ∈ files)
    (hg : g ∈ files)
    (okF : (generateFile o (Registry.ofFiles files) files f.name).outcome = .ok outF)
    (okG : (generateFile o (Registry.ofFiles files) files g.name).outcome = .ok outG) :
    ReferencesAgree o files f g outF outG := by
  obtain ⟨m, hm, contentF⟩ := generateFile_of_mem wf.distinctFiles hf okF
  obtain ⟨k, hk, contentG⟩ := generateFile_of_mem wf.distinctFiles hg okG
  obtain ⟨dialect, written⟩ := FlowModule.mentions_ofFile hm
  have line {x : Export} (hx : x ∈ g.exports) : x.line o.exactObjects ∈ lines outG.content := by
    rw [contentG]
    exact FlowModule.line_mem_lines_render hk (Registry.isUnbroken_ofFiles wf.unbroken)
      (wf.unbroken g hg) (fun m hm => wf.name_ne_empty hg hm) hx
  refine ⟨m, hm, contentF, forall₂_imp_of_mem written fun u hu mention writes => ⟨?_, ?_⟩⟩
  · rintro ⟨n, d⟩ hd kind rfl
    cases writes with
    | message _ entry =>
      rw [Registry.message?_of_declared wf.distinctMessages hg hd] at entry
      cases entry
      have plain := wf.not_isMapEntry_of_use sides hf hu kind hg hd
      exact ⟨_, rfl, FileScope.reference_text rfl _, line (wf.message_exported hg hd plain)⟩
    | enum isEnum _ => exact absurd isEnum kind
  · rintro ⟨n, d⟩ hd kind rfl
    cases writes with
    | message notEnum _ => exact absurd kind notEnum
    | enum _ entry =>
      rw [Registry.enum?_of_declared wf.distinctEnums hg hd] at entry
      cases entry
      exact ⟨_, rfl, FileScope.reference_text rfl _, line (wf.enum_exported hg hd)⟩

def itemFile : FileDescriptor where
  name? := some "shop/item.proto"
  package? := some "shop.v1"
  messages := [{
    name? := some "Item"
    nested := [{ name? := some "Size" }]
    enums := [.ofValues "Color" [("RED", 0)]] }]

def cartFile : FileDescriptor where
  name? := some "shop/cart.proto"
  dependencies := ["shop/item.proto"]
  messages := [{
    name? := some "Cart"
    fields := [
      ((FieldDescriptor.ofType "sizes" 1 .message).withLabel .repeated).withTypeName
        ".shop.v1.Item.Size",
      ((FieldDescriptor.ofType "colors" 2 .message).withLabel .repeated).withTypeName
        ".Cart.ColorsEntry"]
    nested := [
      MapSides.entry ⟨⟨.string, none⟩, ⟨.enum, some ".shop.v1.Item.Color"⟩⟩ "ColorsEntry"] }]
  extensions := [((FieldDescriptor.ofType "gift" 3 .message).withTypeName ".Cart").withExtendee
    ".shop.v1.Item"]

theorem references_agree_cartFile : ∃ cart item,
    WellFormed [itemFile, cartFile] ∧ PlainSides [itemFile, cartFile] ∧
    ReferencesAgree {} [itemFile, cartFile] cartFile itemFile cart item := by
  obtain ⟨cart, hcart⟩ : ∃ out, (generateFile {} (Registry.ofFiles [itemFile, cartFile])
      [itemFile, cartFile] cartFile.name).outcome = .ok out := by
    rw [← failureOf_eq_none]
    decide +kernel
  obtain ⟨item, hitem⟩ : ∃ out, (generateFile {} (Registry.ofFiles [itemFile, cartFile])
      [itemFile, cartFile] itemFile.name).outcome = .ok out := by
    rw [← failureOf_eq_none]
    decide +kernel
  have packages : ∀ f ∈ [itemFile, cartFile], IsPackage f.package := by
    intro f hf
    simp only [List.mem_cons, List.not_mem_nil, or_false] at hf
    rcases hf with rfl | rfl
    · exact ⟨["shop", "v1"], by decide, by decide⟩
    · exact ⟨[], by decide, by decide⟩
  have wf : WellFormed [itemFile, cartFile] := {
    distinctFiles := by decide
    distinctMessages := by decide +kernel
    distinctEnums := by decide +kernel
    packages := packages
    messageNames := by decide +kernel
    enumNames := by decide +kernel
    unbroken := by decide +kernel
    fields := by decide +kernel
    extensions := by decide +kernel
    entries := by decide +kernel }
  have sides : PlainSides [itemFile, cartFile] := by
    unfold PlainSides
    decide +kernel
  exact ⟨cart, item, wf, sides,
    references_agree wf sides (List.mem_cons_of_mem _ List.mem_cons_self) List.mem_cons_self
      hcart hitem⟩

def matrixFile : FileDescriptor where
  name? := some "matrix.proto"
  messages := [{
    name? := some "Matrix"
    fields := [((FieldDescriptor.ofType "rows" 1 .message).withLabel .repeated).withTypeName
      ".Matrix.RowsEntry"]
    nested := [
      { name? := some "RowsEntry"
        fields := [.ofType "key" 1 .string,
          ((FieldDescriptor.ofType "value" 2 .message).withLabel .repeated).withTypeName
            ".Matrix.CellsEntry"]
        options? := some { mapEntry? := some true } },
      MapSides.entry ⟨⟨.string, none⟩, ⟨.double, none⟩⟩ "CellsEntry"] }]

def matrixModule : FlowModule where
  package := ""
  file := "matrix.proto"
  imports := []
  declarations := [.object "Matrix"
    [⟨"rows", false, .array (.pair .string (.object ⟨none, "Matrix_CellsEntry"⟩))⟩]]

theorem references_disagree_matrixFile : ∃ out target, WellFormed [matrixFile] ∧
    (generateFile {} (Registry.ofFiles [matrixFile]) [matrixFile] matrixFile.name).outcome =
      .ok out ∧
    matrixFile.uses (Registry.ofFiles [matrixFile]) = [⟨.message, ⟨".Matrix.CellsEntry"⟩⟩] ∧
    ⟨".Matrix.CellsEntry"⟩ ∈ matrixFile.declaredMessages.map Prod.fst ∧
    (FlowModule.ofFile {} (Registry.ofFiles [matrixFile]) matrixFile).outcome = .ok matrixModule ∧
    matrixModule.mentions = [.object target] ∧ out.content = matrixModule.render false ∧
    (∀ name, target.text = matrixFile.qualify matrixFile name →
      (Export.type name).line false ∉ lines out.content) ∧
    ¬ReferencesAgree {} [matrixFile] matrixFile matrixFile out out := by
  have wf : WellFormed [matrixFile] := {
    distinctFiles := by decide
    distinctMessages := by decide +kernel
    distinctEnums := by decide +kernel
    packages := by simpa using ⟨[], by decide, by decide⟩
    messageNames := by decide +kernel
    enumNames := by decide +kernel
    unbroken := by decide +kernel
    fields := by decide +kernel
    extensions := by decide +kernel
    entries := by decide +kernel }
  have ofFile : (FlowModule.ofFile {} (Registry.ofFiles [matrixFile]) matrixFile).outcome =
      .ok matrixModule := by decide +kernel
  have uses : matrixFile.uses (Registry.ofFiles [matrixFile]) =
      [⟨.message, ⟨".Matrix.CellsEntry"⟩⟩] := by decide +kernel
  have declared : ⟨".Matrix.CellsEntry"⟩ ∈ matrixFile.declaredMessages.map Prod.fst := by
    decide +kernel
  have missing (name : String)
      (text : "Matrix_CellsEntry" = matrixFile.qualify matrixFile name) :
      (Export.type name).line false ∉ lines (matrixModule.render false) := by
    rw [FileDescriptor.qualify, if_pos rfl] at text
    obtain rfl := text
    decide +kernel
  refine ⟨⟨"matrix_pb.js", matrixModule.render false⟩, ⟨none, "Matrix_CellsEntry"⟩, wf,
    by decide +kernel, uses, declared, ofFile, rfl, rfl, missing, ?_⟩
  rintro ⟨m, hm, -, agree⟩
  rw [ofFile] at hm
  cases hm
  rw [uses] at agree
  obtain ⟨agrees, -⟩ := List.forall₂_cons.mp agree
  obtain ⟨d, hd, hn⟩ := List.mem_map.mp declared
  obtain ⟨target, ht, text, line⟩ := agrees.message d hd (by decide) hn
  cases ht
  exact missing _ text line

end FlowSchema
