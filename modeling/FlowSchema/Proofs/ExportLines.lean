import FlowSchema.Proofs.Exports
import FlowSchema.Proofs.Page

namespace FlowSchema

open Identifier

namespace Declaration

def exported : Declaration → Export
  | object name _ => .type name
  | table name _ => .const name

theorem heading_eq_line (exact : Bool) (d : Declaration) :
    d.heading exact = d.exported.line exact := by
  cases d with
  | object name _ | table name _ => rfl

end Declaration

section

variable {path : List String} (named : ∀ s ∈ path, s ≠ "")
include named

theorem EnumDescriptor.exported_table (e : EnumDescriptor) :
    (e.table (Export.pathName path)).exported = Export.ofEnum path e := by
  rw [Export.ofEnum, ← Export.nested_pathName named]
  rfl

theorem MessageDescriptor.exported_tables (m : MessageDescriptor) :
    (m.tables (Export.pathName path)).map Declaration.exported = Export.ofOneofs path m := by
  rw [tables, Export.ofOneofs, List.map_flatMap]
  refine List.flatMap_congr fun ⟨o, i⟩ _ => ?_
  simp only [OneofDescriptor.isSynthetic_iff]
  split
  · rfl
  · rw [← Export.nested_pathName named]
    rfl

theorem FileScope.exported_extension {s : FileScope} {f : FieldDescriptor} {d : Declaration}
    (h : (s.extension (Export.pathName path) f).outcome = .ok d) :
    d.exported = Export.ofExtension path f := by
  obtain ⟨type, -, rfl⟩ := extension_eq_ok h
  rw [Export.ofExtension, ← Export.nested_pathName named]
  rfl

end

namespace FileScope

open MessageDescriptor (Visible)

variable {s : FileScope}

theorem exported_messageDeclarations {outer : String} {m : MessageDescriptor}
    {ds : List Declaration} (h : (s.messageDeclarations outer m).outcome = .ok ds) :
    ∀ path, outer = Export.pathName path → (∀ s ∈ path, s ≠ "") →
      (∀ n, Visible [m] n → n.name ≠ "") → ds.map Declaration.exported = m.exports path := by
  apply messageDeclarations_induction ?_ ?_ h
  · intro _ m hm path _ _ _
    rw [m.exports_of_isMapEntry hm]
    rfl
  · rintro _ m properties inner extensions plain - hi he path rfl named visible
    have top : Visible [m] m := .top List.mem_cons_self plain
    have named' : ∀ s ∈ path ++ [m.name], s ≠ "" := by
      simpa [or_imp, forall_and] using ⟨named, visible m top⟩
    rw [Export.nested_pathName named] at hi he ⊢
    have messages : inner.flatten.map Declaration.exported =
        MessageDescriptor.exportsAll (path ++ [m.name]) m.nested := by
      rw [MessageDescriptor.exportsAll_eq, List.map_flatten, List.flatMap_def]
      refine congrArg List.flatten (map_eq_map_of_forall₂ hi fun n hn part hpart => ?_)
      exact hpart _ rfl named' fun k hk => visible k (top.trans (hk.of_mem hn))
    have exts : extensions.map Declaration.exported =
        m.extensions.map (Export.ofExtension (path ++ [m.name])) :=
      map_eq_map_of_forall₂ he fun f _ d hd => exported_extension named' hd
    have enums : (m.enums.map (·.table (Export.pathName (path ++ [m.name])))).map
        Declaration.exported = m.enums.map (Export.ofEnum (path ++ [m.name])) := by
      rw [List.map_map]
      exact List.map_congr_left fun e _ => e.exported_table named'
    rw [m.exports_eq plain, List.map_cons, List.map_append, List.map_append, List.map_append,
      messages, enums, m.exported_tables named', exts]
    rfl

theorem exported_fileDeclarations {f : FileDescriptor} {ds : List Declaration}
    (h : (s.fileDeclarations f).outcome = .ok ds)
    (visible : ∀ m, Visible f.messages m → m.name ≠ "") :
    ds.map Declaration.exported = f.exports := by
  obtain ⟨parts, extensions, hparts, hextensions, rfl⟩ := fileDeclarations_eq_ok h
  have named : ∀ s ∈ ([] : List String), s ≠ "" := by simp
  have messages : parts.flatten.map Declaration.exported =
      MessageDescriptor.exportsAll [] f.messages := by
    rw [MessageDescriptor.exportsAll_eq, List.map_flatten, List.flatMap_def]
    refine congrArg List.flatten (map_eq_map_of_forall₂ hparts fun m hm part hpart => ?_)
    exact exported_messageDeclarations hpart [] rfl named fun k hk => visible k (hk.of_mem hm)
  have exts : extensions.map Declaration.exported = f.extensions.map (Export.ofExtension []) :=
    map_eq_map_of_forall₂ hextensions fun f _ d hd => exported_extension named hd
  have enums : (f.enums.map (·.table "")).map Declaration.exported =
      f.enums.map (Export.ofEnum []) := by
    rw [List.map_map]
    exact List.map_congr_left fun e _ => e.exported_table named
  rw [List.map_append, List.map_append, messages, exts, enums]
  rfl

end FileScope

open Text Layout

theorem FlowModule.lines_render {o : Options} {r : Registry} {f : FileDescriptor} {m : FlowModule}
    (h : (FlowModule.ofFile o r f).outcome = .ok m) (hr : r.IsUnbroken)
    (ho : ∀ s ∈ o.strings, Unbroken s) (clean : ∀ s ∈ f.strings, Unbroken s) :
    lines (m.render o.exactObjects) = (m.layout o.exactObjects).map Piece.content ++ [""] :=
  lines_render_of_unbroken (m.endsLine_layout _) (unbroken_layout h hr ho clean)

theorem FlowModule.line_mem_lines_render {o : Options} {r : Registry} {f : FileDescriptor}
    {m : FlowModule} {x : Export} (h : (FlowModule.ofFile o r f).outcome = .ok m)
    (hr : r.IsUnbroken) (clean : ∀ s ∈ f.strings, Unbroken s)
    (named : ∀ m, MessageDescriptor.Visible f.messages m → m.name ≠ "") (hx : x ∈ f.exports) :
    x.line o.exactObjects ∈ lines (m.render o.exactObjects) := by
  obtain ⟨dialect, declarations, hd, rfl⟩ := ofFile_eq_ok h
  rw [← FileScope.exported_fileDeclarations hd named] at hx
  obtain ⟨d, hmem, rfl⟩ := List.mem_map.mp hx
  rw [← d.heading_eq_line]
  have unbroken := (FileScope.isUnbroken_fileDeclarations hr hd clean d hmem).1
  refine mem_lines_render (p := .line (d.heading o.exactObjects)) (endsLine_layout _ _) ?_
    (Declaration.unbroken_heading unbroken _)
  refine List.mem_append_right _ (List.mem_flatMap.mpr ⟨d, hmem, ?_⟩)
  exact List.mem_append_left _ List.mem_cons_self

theorem FlowModule.exportLines_render {o : Options} {r : Registry} {f : FileDescriptor}
    {m : FlowModule} (h : (FlowModule.ofFile o r f).outcome = .ok m) (hr : r.IsUnbroken)
    (ho : ∀ s ∈ o.strings, Unbroken s) (clean : ∀ s ∈ f.strings, Unbroken s)
    (named : ∀ m, MessageDescriptor.Visible f.messages m → m.name ≠ "") :
    (lines (m.render o.exactObjects)).filter (startsWith "export ") =
      f.exports.map (Export.line o.exactObjects) := by
  have blank : [""].filter (startsWith "export ") = [] := by decide
  rw [lines_render h hr ho clean, List.filter_append, exports_layout, blank, List.append_nil]
  obtain ⟨dialect, declarations, hd, rfl⟩ := ofFile_eq_ok h
  rw [← FileScope.exported_fileDeclarations hd named, List.map_map]
  exact List.map_congr_left fun d _ => d.heading_eq_line _

theorem exportLines_eq (o : Options) (files : List FileDescriptor) (f : FileDescriptor)
    (out : Output) (ho : ∀ s ∈ o.strings, Unbroken s)
    (clean : ∀ g ∈ files, ∀ s ∈ g.strings, Unbroken s) (hf : findFile files f.name = .ok f)
    (named : ∀ m, MessageDescriptor.Visible f.messages m → m.name ≠ "")
    (h : (generateFile o (Registry.ofFiles files) files f.name).outcome = .ok out) :
    (lines out.content).filter (startsWith "export ") =
      f.exports.map (Export.line o.exactObjects) := by
  obtain ⟨g, m, hg, hm, rfl⟩ := generateFile_eq_ok h
  obtain rfl := Except.ok.inj (hf.symm.trans hg)
  obtain ⟨mem, -⟩ := findFile_eq_ok hf
  dsimp only
  exact FlowModule.exportLines_render hm (Registry.isUnbroken_ofFiles clean) ho (clean f mem) named

def orderFile : FileDescriptor where
  name? := some "shop/order.proto"
  package? := some "shop"
  messages := [{
    name? := some "Order"
    nested := [
      { name? := some "Line", enums := [{ name? := some "State" }] },
      { name? := some "TagsEntry", options? := some { mapEntry? := some true } }]
    oneofs := [{ name? := some "paid_by" }]
    extensions := [{ name? := some "gift_note", type? := some 9 }] }]
  enums := [{ name? := some "Currency", values := [⟨some "EUR", some 0⟩] }]
  extensions := [{ name? := some "vat_id", type? := some 9 }]

theorem exportLines_orderFile : ∃ out,
    (generateFile {} (Registry.ofFiles [orderFile]) [orderFile] orderFile.name).outcome = .ok out ∧
    (lines out.content).filter (startsWith "export ") =
      ["export type Order = \x7b", "export type Order_Line = \x7b",
        "export const Order_Line_State = Object.freeze(\x7b",
        "export const Order_PaidByCase = Object.freeze(\x7b", "export type Order_giftNote = \x7b",
        "export type vatId = \x7b", "export const Currency = Object.freeze(\x7b"] := by
  obtain ⟨out, h⟩ : ∃ out, (generateFile {} (Registry.ofFiles [orderFile]) [orderFile]
      orderFile.name).outcome = .ok out := by
    rw [← failureOf_eq_none]
    decide +kernel
  have named := orderFile.forall_visible (P := fun m => m.name ≠ "") (by decide +kernel)
  refine ⟨out, h, ?_⟩
  rw [exportLines_eq {} [orderFile] orderFile out (by decide) (by decide) rfl named h]
  decide +kernel

end FlowSchema
