import FlowSchema.Proofs.ExportLines
import FlowSchema.Proofs.Logged
import FlowSchema.Proofs.ObjectBody
import FlowSchema.Proofs.Visits

namespace FlowSchema

open Identifier Layout Text Traced
open MessageDescriptor (Visible nested_induction visitsAll visitsAll_eq visits_eq
  visits_of_isMapEntry)

namespace Declaration

def written (exact : Bool) (d : Declaration) : List String := (d.layout exact).map Piece.content

theorem written_eq (exact : Bool) (d : Declaration) :
    ∃ rest, d.written exact = d.exported.line exact :: rest := by
  rw [written, ← heading_eq_line, layout, List.cons_append, List.map_cons]
  exact ⟨_, rfl⟩

end Declaration

namespace FileScope

inductive FieldNote (s : FileScope) (f : FieldDescriptor) : Record → String → Prop
  | map {e : MessageEntry} {sides : MapSides} {key value : FlowType}
      (repeats : s.registry.Repeats f e) (both : e.mapSides? = some sides)
      (first : s.sideType sides.key = .ok key) (second : s.sideType sides.value = .ok value) :
      FieldNote s f (.mapField f.name key value)
        ("  " ++ fieldName f.name ++ ": Array<[" ++ key.text ++ ", " ++ value.text ++ "]>,")
  | plain {type : FlowType} (other : ∀ e, ¬s.registry.Repeats f e)
      (resolved : s.fieldType f = .ok type)
      (named : startsWith "[" type.text = true → ∃ target, type = .object target) :
      FieldNote s f (.field f.name type (f.isOptional s.dialect))
        ("  " ++ fieldName f.name ++ (if f.isOptional s.dialect then "?" else "") ++ ": "
          ++ (if f.label = .repeated then "Array<" ++ type.text ++ ">" else type.text) ++ ",")

inductive Mirrors (s : FileScope) (exact : Bool) : Visit → List Record → List String → Prop
  | entry {path : List String} {m : MessageDescriptor} (inlined : m.isMapEntry = true) :
      Mirrors s exact (.message path m) [.message m.name] []
  | object {path : List String} {m : MessageDescriptor} {notes : List (Record × String)}
      (plain : m.isMapEntry = false)
      (fields : List.Forall₂ (fun f note => s.FieldNote f note.1 note.2) m.fields notes) :
      Mirrors s exact (.message path m) (.message m.name :: notes.map Prod.fst)
        ((Visit.message path m).exported.line exact :: notes.map Prod.snd
          ++ [if exact then "|\x7d" else "\x7d", ""])
  | other {v : Visit} {rest : List String} (other : ∀ path m, v ≠ .message path m) :
      Mirrors s exact v [v.record] (v.exported.line exact :: rest)

inductive Walk (s : FileScope) (exact : Bool) : List Visit → List Record → List String → Prop
  | nil : Walk s exact [] [] []
  | cons {v : Visit} {vs : List Visit} {records log : List Record} {lines page : List String}
      (first : s.Mirrors exact v records lines) (rest : Walk s exact vs log page) :
      Walk s exact (v :: vs) (records ++ log) (lines ++ page)

variable {s : FileScope} {exact : Bool}

theorem FieldNote.not_declares {f : FieldDescriptor} {r : Record} {line : String}
    (h : s.FieldNote f r line) : r.declares = false := by
  cases h with
  | map | plain => rfl

theorem Mirrors.declared {v : Visit} {records : List Record} {lines : List String}
    (h : s.Mirrors exact v records lines) : records.filter Record.declares = [v.record] := by
  cases h with
  | entry inlined => rfl
  | @object path m notes plain fields =>
    have none : (notes.map Prod.fst).filter Record.declares = [] := by
      rw [List.filter_eq_nil_iff]
      intro r hr
      obtain ⟨note, hnote, rfl⟩ := List.mem_map.mp hr
      obtain ⟨f, -, h⟩ := exists_of_mem_right fields hnote
      simp [h.not_declares]
    rw [List.filter_cons, none]
    rfl
  | other other => rw [List.filter_cons, if_pos v.declares_record, List.filter_nil]

namespace Walk

theorem single {v : Visit} {records : List Record} {lines : List String}
    (h : s.Mirrors exact v records lines) : s.Walk exact [v] records lines := by
  have walk := Walk.cons h .nil
  rwa [List.append_nil, List.append_nil] at walk

theorem append {vs vs' : List Visit} {log log' : List Record} {lines lines' : List String}
    (h : s.Walk exact vs log lines) (h' : s.Walk exact vs' log' lines') :
    s.Walk exact (vs ++ vs') (log ++ log') (lines ++ lines') := by
  induction h with
  | nil => exact h'
  | cons first _ ih =>
    rw [List.append_assoc, List.append_assoc]
    exact .cons first ih

theorem flatMap {α β : Type} {as : List α} {visits : α → List Visit} {lines : β → List String}
    {parts : List (β × List Record)}
    (h : List.Forall₂ (fun a part => s.Walk exact (visits a) part.2 (lines part.1)) as parts) :
    s.Walk exact (as.flatMap visits) (parts.flatMap Prod.snd)
      ((parts.map Prod.fst).flatMap lines) := by
  induction h with
  | nil => exact .nil
  | cons first _ ih => exact first.append ih

theorem flatten {α : Type} {as : List α} {visits : α → List Visit}
    {parts : List (List Declaration × List Record)}
    (h : List.Forall₂ (fun a part => s.Walk exact (visits a) part.2
      (part.1.flatMap (Declaration.written exact))) as parts) :
    s.Walk exact (as.flatMap visits) (parts.flatMap Prod.snd)
      ((parts.map Prod.fst).flatten.flatMap (Declaration.written exact)) := by
  rw [← List.flatMap_id, List.flatMap_assoc]
  exact flatMap h

theorem declared {vs : List Visit} {log : List Record} {lines : List String}
    (h : s.Walk exact vs log lines) : log.filter Record.declares = vs.map Visit.record := by
  induction h with
  | nil => rfl
  | cons first _ ih =>
    rw [List.filter_append, first.declared, ih]
    rfl

end Walk

theorem startsWith_bracket {f : FieldDescriptor} {type : FlowType} (h : s.fieldType f = .ok type)
    (bracket : startsWith "[" type.text = true) : ∃ target, type = .object target := by
  cases fieldType_eq_ok h with
  | message kind entry => exact ⟨_, rfl⟩
  | enum kind entry =>
    rw [FlowType.text_valuesOf, String.append_assoc, startsWith_append (by decide)] at bracket
    exact absurd bracket (by decide)
  | scalar nameless mem =>
    have plain : ∀ type ∈ [FlowType.number, .boolean, .string, .bytes],
        startsWith "[" type.text = false := by decide
    rw [plain _ mem] at bracket
    cases bracket

theorem fieldNote_of_property {f : FieldDescriptor} {p : Property} {log : List Record}
    (h : s.property f = ⟨log, .ok p⟩) : ∃ r, log = [r] ∧ s.FieldNote f r ("  " ++ p.text) := by
  rw [property, lift_bind_eq_mk] at h
  obtain ⟨sides?, hsides, h⟩ := h
  cases sides? with
  | some sides =>
    simp only [mapProperty, lift_bind_eq_mk, record_bind_eq_mk, pure_eq_mk] at h
    obtain ⟨key, hkey, value, hvalue, _, ⟨rfl, rfl⟩, rfl⟩ := h
    obtain ⟨e, he, both⟩ := mapSides?_eq_some hsides
    refine ⟨_, rfl, ?_⟩
    rw [Property.line_map]
    exact .map (Registry.entryOf?_eq_some_iff.mp he) both hkey hvalue
  | none =>
    simp only [plainProperty, lift_bind_eq_mk, record_bind_eq_mk, pure_eq_mk] at h
    obtain ⟨type, htype, _, ⟨rfl, rfl⟩, rfl⟩ := h
    refine ⟨_, rfl, ?_⟩
    rw [Property.line_plain]
    exact .plain (Registry.not_repeats_of_none (mapSides?_eq_none hsides)) htype
      (startsWith_bracket htype)

theorem fieldNotes_of_properties {fs : List FieldDescriptor} {properties : List Property}
    {log : List Record} (h : fs.mapM s.property = ⟨log, .ok properties⟩) :
    ∃ notes : List (Record × String), log = notes.map Prod.fst ∧
      properties.map (fun p => "  " ++ p.text) = notes.map Prod.snd ∧
      List.Forall₂ (fun f note => s.FieldNote f note.1 note.2) fs notes := by
  obtain ⟨parts, hparts, rfl, rfl⟩ := mapM_eq_mk.mp h
  clear h
  induction hparts with
  | nil => exact ⟨[], rfl, rfl, .nil⟩
  | @cons f part fs parts hf _ ih =>
    obtain ⟨notes, log, lines, fields⟩ := ih
    obtain ⟨r, hr, note⟩ := fieldNote_of_property hf
    refine ⟨(r, "  " ++ part.1.text) :: notes, ?_, ?_, .cons note fields⟩
    · rw [List.flatMap_cons, hr, log]
      rfl
    · rw [List.map_cons, List.map_cons, lines]
      rfl

theorem Walk.mapM {α : Type} {f : α → Traced Declaration} {visit : α → Visit}
    (other : ∀ a path m, visit a ≠ .message path m)
    (step : ∀ a log d, f a = ⟨log, .ok d⟩ →
      log = [(visit a).record] ∧ d.exported = (visit a).exported)
    {as : List α} {ds : List Declaration} {log : List Record} (h : as.mapM f = ⟨log, .ok ds⟩) :
    s.Walk exact (as.map visit) log (ds.flatMap (Declaration.written exact)) := by
  obtain ⟨parts, hparts, rfl, rfl⟩ := mapM_eq_mk.mp h
  rw [List.map_eq_flatMap]
  refine .flatMap (hparts.imp fun a part hpart => ?_)
  obtain ⟨log, exported⟩ := step a part.2 part.1 hpart
  obtain ⟨rest, written⟩ := part.1.written_eq exact
  rw [log, written, exported]
  exact .single (.other (other a))

section

variable {path : List String} (named : ∀ s ∈ path, s ≠ "")
include named

theorem walk_enums {es : List EnumDescriptor} {ds : List Declaration} {log : List Record}
    (h : es.mapM (·.declaration (Export.pathName path)) = ⟨log, .ok ds⟩) :
    s.Walk exact (es.map (.enumeration path)) log (ds.flatMap (Declaration.written exact)) := by
  refine .mapM (fun _ _ _ => Visit.noConfusion) (fun e log d h => ?_) h
  cases h
  exact ⟨rfl, e.exported_table named⟩

theorem walk_extensions {fs : List FieldDescriptor} {ds : List Declaration} {log : List Record}
    (h : fs.mapM (s.extension (Export.pathName path)) = ⟨log, .ok ds⟩) :
    s.Walk exact (fs.map (.extension path)) log (ds.flatMap (Declaration.written exact)) := by
  refine .mapM (fun _ _ _ => Visit.noConfusion) (fun f log d h => ?_) h
  have exported := exported_extension named (congrArg Traced.outcome h)
  simp only [extension, record_bind_eq_mk, lift_bind_eq_mk, pure_eq_mk] at h
  obtain ⟨_, ⟨type, -, -, rfl⟩, rfl⟩ := h
  exact ⟨rfl, exported⟩

theorem walk_oneofs {m : MessageDescriptor} {ds : List Declaration} {log : List Record}
    (h : m.oneofDeclarations (Export.pathName path) = ⟨log, .ok ds⟩) :
    s.Walk exact (Visit.ofOneofs path m) log (ds.flatMap (Declaration.written exact)) := by
  simp only [MessageDescriptor.oneofDeclarations, bind_eq_mk, mapM_eq_mk, pure_eq_mk] at h
  obtain ⟨_, _, _, ⟨parts, hparts, rfl, rfl⟩, ⟨rfl, rfl⟩, rfl⟩ := h
  rw [List.append_nil]
  refine .flatten (hparts.imp fun x part hpart => ?_)
  obtain ⟨o, i⟩ := x
  dsimp only at hpart ⊢
  by_cases skipped : OneofDescriptor.isSynthetic (m.members i) = true
  · rw [OneofDescriptor.declarations, if_pos skipped, pure_eq_mk] at hpart
    rw [← hpart.1, hpart.2, if_pos (OneofDescriptor.isSynthetic_iff.mp skipped)]
    exact .nil
  · rw [OneofDescriptor.declarations, if_neg skipped, record_bind_eq_mk] at hpart
    obtain ⟨rest, htable, log⟩ := hpart
    obtain ⟨table, rfl⟩ := pure_eq_mk.mp htable
    rw [log, ← table, if_neg (mt OneofDescriptor.isSynthetic_iff.mpr skipped),
      Export.nested_pathName named, List.flatMap_singleton]
    obtain ⟨rest, written⟩ := Declaration.written_eq exact _
    rw [written]
    exact .single (.other fun _ _ => Visit.noConfusion)

end

theorem mirrors_object (exact : Bool) (path : List String) {m : MessageDescriptor}
    {properties : List Property} {log : List Record} (plain : m.isMapEntry = false)
    (h : m.fields.mapM s.property = ⟨log, .ok properties⟩) :
    s.Mirrors exact (.message path m) (.message m.name :: log)
      ((Declaration.object (Export.pathName (path ++ [m.name])) properties).written exact) := by
  obtain ⟨notes, rfl, lines, fields⟩ := fieldNotes_of_properties h
  rw [Declaration.written, Declaration.object_content, lines]
  exact .object plain fields

theorem walk_messages {path : List String} {ms : List MessageDescriptor} {ds : List Declaration}
    {log : List Record} (h : s.messagesDeclarations (Export.pathName path) ms = ⟨log, .ok ds⟩)
    (each : ∀ m ∈ ms, ∀ ds log, s.messageDeclarations (Export.pathName path) m = ⟨log, .ok ds⟩ →
      s.Walk exact (m.visits path) log (ds.flatMap (Declaration.written exact))) :
    s.Walk exact (visitsAll path ms) log (ds.flatMap (Declaration.written exact)) := by
  rw [messagesDeclarations_eq, ← bind_pure_comp, bind_eq_mk] at h
  obtain ⟨_, _, _, hms, hds, rfl⟩ := h
  obtain ⟨rfl, rfl⟩ := pure_eq_mk.mp hds
  obtain ⟨parts, hparts, rfl, rfl⟩ := mapM_eq_mk.mp hms
  rw [visitsAll_eq, List.append_nil]
  exact .flatten (forall₂_imp_of_mem hparts fun m hm part => each m hm part.1 part.2)

theorem walk_message {path : List String} {m : MessageDescriptor} {ds : List Declaration}
    {log : List Record} (h : s.messageDeclarations (Export.pathName path) m = ⟨log, .ok ds⟩)
    (named : ∀ s ∈ path, s ≠ "") (visible : ∀ n, Visible [m] n → n.name ≠ "") :
    s.Walk exact (m.visits path) log (ds.flatMap (Declaration.written exact)) := by
  induction m using nested_induction generalizing path log ds with
  | step m ih =>
    rw [messageDeclarations_eq, record_bind_eq_mk] at h
    obtain ⟨log, h, rfl⟩ := h
    cases plain : m.isMapEntry with
    | true =>
      rw [if_pos plain, pure_eq_mk] at h
      obtain ⟨rfl, rfl⟩ := h
      rw [visits_of_isMapEntry plain]
      exact .single (.entry plain)
    | false =>
      have top : Visible [m] m := .top List.mem_cons_self plain
      have named' : ∀ s ∈ path ++ [m.name], s ≠ "" := by
        simpa [or_imp, forall_and] using ⟨named, visible m top⟩
      rw [if_neg (by simp [plain]), Export.nested_pathName named] at h
      simp only [bind_eq_mk, pure_eq_mk] at h
      obtain ⟨properties, fields, _, hproperties, ⟨messages, inner, _, hmessages, ⟨tables, enums, _,
        henums, ⟨cases, oneofs, _, honeofs, ⟨objects, extensions, _, hextensions, ⟨rfl, rfl⟩, rfl⟩,
        rfl⟩, rfl⟩, rfl⟩, rfl⟩ := h
      -- The fields are noted down before the nested messages, as their lines come before theirs.
      have object := Walk.single (mirrors_object exact path plain hproperties)
      have nested : s.Walk exact (visitsAll (path ++ [m.name]) m.nested) inner
          (messages.flatMap (Declaration.written exact)) := by
        refine walk_messages hmessages fun n hn ds log h => ?_
        exact ih n hn h named' fun k hk => visible k (top.trans (hk.of_mem hn))
      have walk := object.append (((nested.append (walk_enums named' henums)).append
        (walk_oneofs named' honeofs)).append (walk_extensions named' hextensions))
      rw [visits_eq plain]
      simpa only [List.flatMap_cons, List.flatMap_append, List.append_assoc, List.cons_append,
        List.nil_append, List.append_nil] using walk

theorem walk_file (exact : Bool) {f : FileDescriptor} {ds : List Declaration} {log : List Record}
    (h : s.fileDeclarations f = ⟨log, .ok ds⟩)
    (visible : ∀ m, Visible f.messages m → m.name ≠ "") :
    s.Walk exact f.visits log (ds.flatMap (Declaration.written exact)) := by
  simp only [fileDeclarations, bind_eq_mk, pure_eq_mk] at h
  obtain ⟨messages, inner, _, hmessages, ⟨objects, extensions, _, hextensions, ⟨tables, enums, _,
    henums, ⟨rfl, rfl⟩, rfl⟩, rfl⟩, rfl⟩ := h
  have named : ∀ s ∈ ([] : List String), s ≠ "" := by simp
  have nested : s.Walk exact (visitsAll [] f.messages) inner
      (messages.flatMap (Declaration.written exact)) := by
    refine walk_messages hmessages fun m hm ds log h => ?_
    exact walk_message h named fun k hk => visible k (hk.of_mem hm)
  have walk := (nested.append (walk_extensions named hextensions)).append (walk_enums named henums)
  simpa only [FileDescriptor.visits, List.flatMap_append, List.append_assoc,
    List.append_nil] using walk

end FileScope

end FlowSchema
