import FlowSchema.Proofs.Batches
import FlowSchema.Proofs.DraftCalls
import FlowSchema.Proofs.Exports
import FlowSchema.Proofs.FileOrder
import FlowSchema.Proofs.ObjectBody

namespace FlowSchema

open Identifier Layout MessageDescriptor
open Export (pathName)

theorem Layout.render_eq_join {ps : List Piece} (h : ∀ p ∈ ps, p.EndsLine) :
    Layout.render 0 ps = String.join ((ps.map Piece.content).map (· ++ "\n")) := by
  induction ps with
  | nil => rfl
  | cons p ps ih =>
    rw [render_cons, Piece.render_eq (h p List.mem_cons_self), Piece.indented_zero,
      ih fun q hq => h q (List.mem_cons_of_mem p hq)]
    simp only [List.map_cons, String.join_cons]

def objectText (exact : Bool) (name : String) (lines : List String) : String :=
  String.join (((("export type " ++ name ++ " = " ++ (if exact then "\x7b|" else "\x7b"))
    :: lines ++ [if exact then "|\x7d" else "\x7d", ""]).map (· ++ "\n")))

theorem FlowModule.objectText_of_infix {m : FlowModule} {name : String}
    {properties : List Property} (h : [.object name properties] <:+: m.declarations)
    (exact : Bool) : ∃ before after, m.render exact =
      before ++ objectText exact name (properties.map fun p => "  " ++ p.text) ++ after := by
  obtain ⟨above, below, split⟩ := h
  have block : Layout.render 0 ((Declaration.object name properties).layout exact) =
      objectText exact name (properties.map fun p => "  " ++ p.text) := by
    rw [render_eq_join (Declaration.endsLine_layout exact _), Declaration.object_content]
    rfl
  refine ⟨Layout.render 0 (m.header ++ m.importBlock ++ above.flatMap (Declaration.layout exact)),
    Layout.render 0 (below.flatMap (Declaration.layout exact)), ?_⟩
  rw [FlowModule.render, FlowModule.layout, ← split, ← block]
  simp only [List.flatMap_append, List.flatMap_singleton, render_append, String.append_assoc]

namespace FileScope

variable {s : FileScope}

theorem infix_of_located {ms : List MessageDescriptor} {path : List String} {m : MessageDescriptor}
    (h : Located ms path m) {before : List String} (named : ∀ s ∈ before ++ path, s ≠ "")
    {parts : List (List Declaration)}
    (rendered : List.Forall₂ (fun n part =>
      (s.messageDeclarations (pathName before) n).outcome = .ok part) ms parts) :
    ∃ part, (s.messageDeclarations (pathName (before ++ path)) m).outcome = .ok part ∧
      part <:+: parts.flatten := by
  induction h generalizing before parts with
  | top mem _ =>
    obtain ⟨part, hpart, found⟩ := exists_of_mem_right rendered.flip mem
    rw [List.append_nil]
    exact ⟨part, found, List.infix_of_mem_flatten hpart⟩
  | @inside ms k m path mem plain _ ih =>
    obtain ⟨part, hpart, found⟩ := exists_of_mem_right rendered.flip mem
    obtain ⟨properties, inner, extensions, -, hinner, -, rfl⟩ :=
      messageDeclarations_eq_ok plain found
    rw [Export.nested_pathName fun s hs => named s (List.mem_append_left _ hs)] at hinner
    have named' : ∀ s ∈ (before ++ [k.name]) ++ path, s ≠ "" := by
      rw [List.append_assoc]
      exact named
    obtain ⟨part, hm, within⟩ := ih named' hinner
    rw [List.append_assoc] at hm
    refine ⟨part, hm, within.trans (List.IsInfix.trans ?_ (List.infix_of_mem_flatten hpart))⟩
    simp only [List.append_assoc]
    exact (List.prefix_append _ _).isInfix.trans (List.suffix_cons _ _).isInfix

theorem object_of_located {f : FileDescriptor} {path : List String} {m : MessageDescriptor}
    (h : Located f.messages path m) (named : ∀ s ∈ path, s ≠ "")
    (hd : Dialect.ofFile f = .ok s.dialect) {ds : List Declaration}
    (rendered : (s.fileDeclarations f).outcome = .ok ds) :
    ∃ properties, [.object (pathName (path ++ [m.name])) properties] <:+: ds ∧
      List.Forall₂ (s.FieldLine f) m.fields (properties.map fun p => "  " ++ p.text) := by
  obtain ⟨parts, extensions, hparts, -, rfl⟩ := fileDeclarations_eq_ok rendered
  have top : List.Forall₂ (fun n part =>
      (s.messageDeclarations (pathName []) n).outcome = .ok part) f.messages parts := hparts
  obtain ⟨part, hm, within⟩ := infix_of_located h (by simpa using named) top
  obtain ⟨properties, inner, extensions, hproperties, -, -, rfl⟩ :=
    messageDeclarations_eq_ok h.plain hm
  rw [List.nil_append, Export.nested_pathName named] at within
  refine ⟨properties, ?_, ?_⟩
  · have first := (List.prefix_append [_] _).isInfix.trans within
    rw [List.append_assoc]
    exact first.trans (List.prefix_append _ _).isInfix
  · rw [List.forall₂_map_right_iff]
    exact hproperties.imp fun x p hx => fieldLine_of_property hd hx

end FileScope

namespace MessageCall

def addsField : MessageCall → Bool
  | .field _ | .mapField .. => true
  | _ => false

inductive Gives (r : Registry) : MessageCall → FieldDescriptor → Prop
  | field (f : FieldDescriptor) : Gives r (.field f) f
  | mapField {name : String} {number : Int32} {sides : MapSides} {f : FieldDescriptor}
      {e : MessageEntry} (named : f.name = name) (numbered : f.number = number)
      (repeats : r.Repeats f e) (both : e.mapSides? = some sides) :
      Gives r (.mapField name number sides) f

inductive Shows (s : FileScope) (g : FileDescriptor) : MessageCall → String → Prop
  | field {f : FieldDescriptor} {line : String} (h : s.FieldLine g f line) :
      Shows s g (.field f) line
  | mapField {name : String} {number : Int32} {sides : MapSides} {key value : String}
      (first : s.Denotes (sides.key.typeName?.getD "") sides.key.type key)
      (second : s.Denotes (sides.value.typeName?.getD "") sides.value.type value) :
      Shows s g (.mapField name number sides)
        ("  " ++ fieldName name ++ ": Array<[" ++ key ++ ", " ++ value ++ "]>,")

theorem Gives.shows {s : FileScope} {g : FileDescriptor} {c : MessageCall} {f : FieldDescriptor}
    {line : String} (h : Gives s.registry c f) (hl : s.FieldLine g f line) : Shows s g c line := by
  cases h with
  | field f => exact .field hl
  | @mapField name number sides f e named _ repeats both =>
    cases hl with
    | @map e' sides' key value entry both' first second =>
      have same : some e' = some e := entry.2.2.1.symm.trans repeats.2.2.1
      cases same
      have sides : some sides' = some sides := both'.symm.trans both
      cases sides
      rw [named]
      exact .mapField first second
    | plain other _ => exact absurd repeats (other e)

theorem gives_of_field? {r : Registry} {path : String} {c : MessageCall} {f : FieldDescriptor}
    (h : c.field? path = some f) (entries : ∀ k, c.entry? = some k → ∃ e,
      r.message? (.ofTypeName (path ++ "." ++ k.name)) = some e ∧
        e.isMapEntry = k.isMapEntry ∧ e.mapSides? = k.mapSides?) : Gives r c f := by
  cases c with
  | field f =>
    cases h
    exact .field f
  | mapField name number sides =>
    cases h
    obtain ⟨e, found, marked, both⟩ := entries _ rfl
    refine .mapField rfl rfl ⟨?_, ?_, found, marked⟩ (both.trans (sides.mapSides?_entry _))
    · rfl
    · rfl
  | _ => cases h

theorem forall₂_fields {r : Registry} {path : String} {calls : List MessageCall}
    (h : ∀ c ∈ calls, ∀ f, c.field? path = some f → Gives r c f) :
    List.Forall₂ (Gives r) (calls.filter addsField) (calls.filterMap (field? path)) := by
  induction calls with
  | nil => exact .nil
  | cons c calls ih =>
    have rest := ih fun c' hc => h c' (List.mem_cons_of_mem c hc)
    have own := h c List.mem_cons_self
    cases c with
    | field | mapField => exact .cons (own _ rfl) rest
    | _ => exact rest

end MessageCall

open MessageCall MessageDraft

theorem shows_of_generateFile {files : List FileDescriptor} {f : FileDescriptor}
    {outer : List String} {m : MessageDescriptor} {calls : List MessageCall}
    (apart : files.Pairwise FileDescriptor.Apart) (hf : f ∈ files)
    (located : Located f.messages outer m) (named : ∀ s ∈ outer, s ≠ "")
    (gives : List.Forall₂ (Gives (Registry.ofFiles files)) calls m.fields) {o : Options} {out : Output}
    (generated : (generateFile o (Registry.ofFiles files) files f.name).outcome = .ok out) :
    ∃ dialect before lines after, Dialect.ofFile f = .ok dialect ∧
      out.content =
        before ++ objectText o.exactObjects (pathName (outer ++ [m.name])) lines ++ after ∧
      List.Forall₂ (Shows ⟨Registry.ofFiles files, f.name, dialect⟩ f) calls lines := by
  obtain ⟨f', module, found, rendered, rfl⟩ := generateFile_eq_ok generated
  obtain ⟨mem, same⟩ := findFile_eq_ok found
  obtain rfl := FileDescriptor.eq_of_name_of_apart apart mem hf same
  obtain ⟨dialect, declarations, hd, hdeclarations, parts⟩ := FlowModule.ofFile_parts rendered
  obtain ⟨properties, within, lines⟩ := FileScope.object_of_located
    (s := ⟨Registry.ofFiles files, f'.name, dialect⟩) located named hd hdeclarations
  have object : [.object (pathName (outer ++ [m.name])) properties] <:+: module.declarations := by
    rw [parts]
    exact within
  obtain ⟨before, after, content⟩ := FlowModule.objectText_of_infix object o.exactObjects
  refine ⟨dialect, before, _, after, hd, content, ?_⟩
  exact forall₂_comp gives lines fun c x line hc hl => hc.shows hl

namespace FileDraft

variable {path package dialect : String} {calls : List FileCall} {outer : List String}
  {name : String} {inner : List MessageCall} {m : MessageDescriptor}

theorem declared_of_located
    (located : Located (writtenFile path package dialect calls).messages outer m) :
    ((QualifiedName.ofPackage package).under (outer ++ [m.name]), m) ∈
      (writtenFile path package dialect calls).declaredMessages := by
  rw [FileDescriptor.declaredMessages, FileDescriptor.scope, package_writtenFile]
  exact located.declared (QualifiedName.ofPackage package)

section

variable (first : package.toList.head? ≠ some '.') (last : package.toList.getLast? ≠ some '.')
  (distinct : ((writtenFile path package dialect calls).declaredMessages.map Prod.fst).Nodup)
  (located : Located (writtenFile path package dialect calls).messages outer m)
  {files : List FileDescriptor} (apart : files.Pairwise FileDescriptor.Apart)
  (listed : writtenFile path package dialect calls ∈ files)
include first last distinct located apart listed

theorem registered_entry (segments : ∀ s ∈ outer ++ [m.name], IsSegment s)
    {k : MessageDescriptor} (hk : k ∈ m.nested) :
    ∃ e, (Registry.ofFiles files).message?
        (.ofTypeName (((QualifiedName.ofPackage package).under outer).text ++ "." ++ m.name ++ "."
          ++ k.name)) = some e ∧
      e.isMapEntry = k.isMapEntry ∧ e.mapSides? = k.mapSides? := by
  have declared := mem_declaredAll_nested (declared_of_located located) hk
  have rooted := (QualifiedName.rooted_under first last (by simp) segments).join k.name
  have text : (((QualifiedName.ofPackage package).under (outer ++ [m.name])).join k.name).text =
      ((QualifiedName.ofPackage package).under outer).text ++ "." ++ m.name ++ "." ++ k.name := by
    rw [QualifiedName.under_concat]
    rfl
  rw [← text, QualifiedName.ofTypeName_of_rooted rooted]
  exact ⟨_, Registry.message?_of_declared_of_apart apart listed distinct declared, rfl, rfl⟩

theorem gives_fields (segments : ∀ s ∈ outer ++ [name], IsSegment s)
    (finishes : Finishes ((QualifiedName.ofPackage package).under outer).text name inner m) :
    List.Forall₂ (Gives (Registry.ofFiles files)) (inner.filter addsField) m.fields := by
  rw [finishes.fields]
  apply forall₂_fields
  intro c hc f hf
  apply gives_of_field? hf
  intro k hk
  have nested := finishes.entries (List.mem_filterMap.mpr ⟨c, hc, hk⟩)
  rw [← finishes.named] at segments ⊢
  exact registered_entry first last distinct located apart listed segments nested

end

/-- A file that is written by calls has each message that was started, with a field for each field
that was called for, in order. A map field repeats the entry that is registered for it, and shows
the two types it was called with wherever the file is rendered, whatever other files there are. -/
theorem map_fields_agree (path package dialect : String) (calls : List FileCall)
    (first : package.toList.head? ≠ some '.') (last : package.toList.getLast? ≠ some '.')
    (segments : ∀ outer name inner, Starts (calls.filterMap FileCall.started?) outer name inner →
      IsSegment name)
    (distinct : ((writtenFile path package dialect calls).declaredMessages.map Prod.fst).Nodup) :
    (written path package dialect calls).build? = some (writtenFile path package dialect calls) ∧
    ∀ outer name inner, Starts (calls.filterMap FileCall.started?) outer name inner →
      ∃ m, ((QualifiedName.ofPackage package).under (outer ++ [name]), m) ∈
          (writtenFile path package dialect calls).declaredMessages ∧
        m.name = name ∧
        ∀ files, writtenFile path package dialect calls ∈ files →
          files.Pairwise FileDescriptor.Apart →
          List.Forall₂ (Gives (Registry.ofFiles files)) (inner.filter addsField) m.fields ∧
          ∀ o requested outputs, (generate o files requested).outcome = .ok outputs →
            ∀ out, ((writtenFile path package dialect calls).name, out) ∈ requested.zip outputs →
              ∃ d before lines after,
                Dialect.ofFile (writtenFile path package dialect calls) = .ok d ∧
                out.content =
                  before ++ objectText o.exactObjects (pathName (outer ++ [name])) lines ++ after ∧
                List.Forall₂ (Shows ⟨Registry.ofFiles files,
                    (writtenFile path package dialect calls).name, d⟩
                    (writtenFile path package dialect calls)) (inner.filter addsField) lines := by
  refine ⟨build?_eq_writtenFile path package dialect calls, fun outer name inner starts => ?_⟩
  obtain ⟨m, located, finishes⟩ := located_of_starts first last starts
  have parts : ∀ s ∈ outer ++ [name], IsSegment s := by
    intro s hs
    rcases List.mem_append.mp hs with hs | hs
    · obtain ⟨before, calls, started⟩ := starts.mem hs
      exact segments before s calls started
    · rw [List.mem_singleton.mp hs]
      exact segments outer name inner starts
  have declared := declared_of_located located
  have named : ∀ s ∈ outer, s ≠ "" := fun s hs => (parts s (List.mem_append_left _ hs)).1
  rw [finishes.named] at declared
  refine ⟨m, declared, finishes.named, fun files listed apart => ?_⟩
  have gives := gives_fields first last distinct located apart listed parts finishes
  refine ⟨gives, fun o requested outputs generated out answers => ?_⟩
  have own := (List.forall₂_iff_zip.mp (generate_eq_ok.mp generated)).2 answers
  rw [← finishes.named]
  exact shows_of_generateFile apart listed located named gives own

def orderCalls : List FileCall := [
  .dependency "money.proto",
  .draft "Order" [
    .field (.ofType "id" 1 .string),
    .draft "Line" [.mapField "unit_prices" 1 ⟨⟨.int32, none⟩, ⟨.message, some ".money.Money"⟩⟩],
    .mapField "lines" 2 ⟨⟨.string, none⟩, ⟨.message, some ".shop.Order.Line"⟩⟩,
    .field (.ofType "note" 3 .string)]]

def orderFile : FileDescriptor := writtenFile "order.proto" "shop" "proto3" orderCalls

def moneyFile : FileDescriptor where
  name? := some "money.proto"
  package? := some "money"
  messages := [{ name? := some "Money" }]

def orderText : String :=
  "// @flow\n// package: shop\n// file: order.proto\n\n" ++
  "import * as money_pb from \"./money_pb\";\n\n" ++
  "export type Order = \x7b\n  id: string,\n  lines: Array<[string, Order_Line]>,\n" ++
  "  note: string,\n\x7d\n\nexport type Order_Line = \x7b\n" ++
  "  unitPrices: Array<[number, money_pb.Money]>,\n\x7d\n\n"

theorem map_fields_agree_orderCalls : ∃ m before lines after,
    (⟨".shop.Order.Line"⟩, m) ∈ orderFile.declaredMessages ∧
    List.Forall₂ (Gives (Registry.ofFiles [moneyFile, orderFile]))
      [.mapField "unit_prices" 1 ⟨⟨.int32, none⟩, ⟨.message, some ".money.Money"⟩⟩] m.fields ∧
    (generate {} [moneyFile, orderFile] [orderFile.name]).outcome =
      .ok [⟨"order_pb.js", orderText⟩] ∧
    orderText = before ++ objectText false "Order_Line" lines ++ after ∧
    lines = ["  unitPrices: Array<[number, money_pb.Money]>,"] := by
  have started {outer : List String} {name : String} {inner : List MessageCall}
      (h : Starts (orderCalls.filterMap FileCall.started?) outer name inner) : IsSegment name := by
    cases h with
    | here mem =>
      cases List.mem_singleton.mp mem
      decide
    | inside mem rest =>
      cases List.mem_singleton.mp mem
      cases rest with
      | here mem =>
        cases List.mem_singleton.mp mem
        decide
      | inside mem rest =>
        cases List.mem_singleton.mp mem
        cases rest with
        | here mem | inside mem _ => cases mem
  have distinct : (orderFile.declaredMessages.map Prod.fst).Nodup := by decide +kernel
  have apart : [moneyFile, orderFile].Pairwise FileDescriptor.Apart := by
    have both : moneyFile.Apart orderFile := ⟨by decide, by decide +kernel, by decide +kernel⟩
    simpa using both
  have rendered : (generate {} [moneyFile, orderFile] [orderFile.name]).outcome =
      .ok [⟨"order_pb.js", orderText⟩] := by decide +kernel
  have line : Starts (orderCalls.filterMap FileCall.started?) ["Order"] "Line"
      [.mapField "unit_prices" 1 ⟨⟨.int32, none⟩, ⟨.message, some ".money.Money"⟩⟩] :=
    .inside List.mem_cons_self (.here List.mem_cons_self)
  obtain ⟨-, agree⟩ := map_fields_agree "order.proto" "shop" "proto3" orderCalls (by decide)
    (by decide) (fun _ _ _ => started) distinct
  obtain ⟨m, declared, -, others⟩ := agree _ _ _ line
  obtain ⟨gives, text⟩ := others [moneyFile, orderFile] (by simp [orderFile]) apart
  obtain ⟨d, before, lines, after, -, content, shown⟩ :=
    text {} _ _ rendered _ List.mem_cons_self
  have money : (Registry.ofFiles [moneyFile, orderFile]).message? (.ofTypeName ".money.Money") =
      some ⟨"money.proto", "money", false, none⟩ := by decide +kernel
  refine ⟨m, before, lines, after, declared, gives, rendered, content, ?_⟩
  cases shown with
  | cons h rest =>
    cases rest
    cases h with
    | mapField key value =>
      cases key with
      | number =>
        cases value with
        | message _ entry =>
          cases money.symm.trans entry
          cases d with
          | proto2 | proto3 | edition2023 => decide +kernel
        | number numeric => simp [FieldType.isInteger] at numeric
      | message kind _ => simp at kind

end FileDraft

end FlowSchema
