import FlowSchema.Descriptor.Draft
import FlowSchema.Proofs.Acceptance
import FlowSchema.Proofs.Page

namespace FlowSchema

open Identifier Layout Text

theorem Dialect.explicitPresence_iff {g : FileDescriptor} {d : Dialect}
    (h : Dialect.ofFile g = .ok d) : d.explicitPresence = true ↔ g.dialect? ≠ some "proto3" := by
  unfold Dialect.ofFile at h
  cases hd : g.dialect? with
  | none =>
    rw [hd] at h
    cases h
    simp [Dialect.explicitPresence]
  | some name =>
    rw [hd, Option.getD_some] at h
    split at h <;> cases h <;> simp_all [Dialect.explicitPresence]

def FieldDescriptor.IsMarked (g : FileDescriptor) (f : FieldDescriptor) : Prop :=
  f.label ≠ .repeated ∧
    (f.oneofIndex? ≠ none ∨ (f.type = .message ∨ f.type = .group) ∨ g.dialect? ≠ some "proto3") ∧
    ¬(f.label = .required ∧ (f.type = .message ∨ f.type = .group) ∧ g.dialect? ≠ some "proto3")

instance (g : FileDescriptor) (f : FieldDescriptor) : Decidable (f.IsMarked g) :=
  inferInstanceAs (Decidable (_ ∧ _ ∧ _))

theorem FieldDescriptor.isOptional_iff {g : FileDescriptor} {d : Dialect}
    (h : Dialect.ofFile g = .ok d) (f : FieldDescriptor) :
    f.isOptional d = true ↔ f.IsMarked g := by
  have message : f.type.isMessage = true ↔ f.type = .message ∨ f.type = .group := by
    simp [FieldType.isMessage]
  rw [IsMarked, ← Dialect.explicitPresence_iff h, ← message, ← Option.isSome_iff_ne_none]
  have presence : f.hasPresence d = true ↔ f.label ≠ .repeated ∧
      (f.oneofIndex?.isSome = true ∨ f.type.isMessage = true ∨ d.explicitPresence = true) := by
    simp only [hasPresence, isRepeated, Bool.and_eq_true, Bool.or_eq_true, Bool.not_eq_true',
      decide_eq_false_iff_not, or_assoc]
  have required : (!(d.explicitPresence && f.label = .required && f.type.isMessage)) = true ↔
      ¬(f.label = .required ∧ f.type.isMessage = true ∧ d.explicitPresence = true) := by
    cases d.explicitPresence <;> cases f.type.isMessage <;> simp
  rw [isOptional, Bool.and_eq_true, presence, required, and_assoc]

theorem Registry.not_repeats_of_none {r : Registry} {f : FieldDescriptor}
    (h : r.entryOf? f = none) (e : MessageEntry) : ¬r.Repeats f e := by
  intro repeats
  rw [entryOf?_eq_some_iff.mpr repeats] at h
  cases h

namespace Property

theorem line_map (key : String) (first second : FlowType) :
    "  " ++ (Property.mk key false (.array (.pair first second))).text =
      "  " ++ key ++ ": Array<[" ++ first.text ++ ", " ++ second.text ++ "]>," := by
  have opening : ": Array<[" = ": " ++ ("Array<" ++ "[") := by decide
  have closing : "]>," = "]" ++ (">" ++ ",") := by decide
  rw [opening, closing]
  simp only [Property.text, FlowType.text_array, FlowType.text_pair, Bool.false_eq_true, if_false,
    String.append_assoc, String.empty_append]

theorem line_plain (key : String) (isOptional : Bool) (type : FlowType) (f : FieldDescriptor) :
    "  " ++ (Property.mk key isOptional (type.repeatedIf f.isRepeated)).text =
      "  " ++ key ++ (if isOptional then "?" else "") ++ ": "
        ++ (if f.label = .repeated then "Array<" ++ type.text ++ ">" else type.text) ++ "," := by
  have repeated : (type.repeatedIf f.isRepeated).text =
      if f.label = .repeated then "Array<" ++ type.text ++ ">" else type.text := by
    by_cases h : f.label = .repeated
    · simp only [FlowType.repeatedIf, FieldDescriptor.isRepeated, h, decide_true, if_true,
        FlowType.text_array]
    · simp [FlowType.repeatedIf, FieldDescriptor.isRepeated, h]
  rw [Property.text, repeated]
  simp only [String.append_assoc]

end Property

namespace FileScope

inductive Denotes (s : FileScope) (typeName : String) : FieldType → String → Prop
  | number {t : FieldType} (numeric : t.isInteger = true ∨ t = .float ∨ t = .double) :
      Denotes s typeName t "number"
  | boolean : Denotes s typeName .bool "boolean"
  | string : Denotes s typeName .string "string"
  | bytes : Denotes s typeName .bytes "Uint8Array | string"
  | message {t : FieldType} {e : MessageEntry} (kind : t = .message ∨ t = .group)
      (entry : s.registry.message? (.ofTypeName typeName) = some e) :
      Denotes s typeName t (s.reference e.file e.package (.ofTypeName typeName)).text
  | enum {e : EnumEntry} (entry : s.registry.enum? (.ofTypeName typeName) = some e) :
      Denotes s typeName .enum
        ("$Values<typeof " ++ (s.reference e.file e.package (.ofTypeName typeName)).text ++ ">")

inductive FieldDenotes (s : FileScope) (f : FieldDescriptor) : String → Prop
  | held (integer : f.type.isInteger = true) (asks : f.jsType = .string) : FieldDenotes s f "string"
  | plain {text : String} (free : f.type.isInteger = false ∨ f.jsType ≠ .string)
      (type : s.Denotes f.typeName f.type text) : FieldDenotes s f text

inductive FieldLine (s : FileScope) (g : FileDescriptor) (f : FieldDescriptor) : String → Prop
  | map {e : MessageEntry} {sides : MapSides} {key value : String}
      (entry : s.registry.Repeats f e) (both : e.mapSides? = some sides)
      (first : s.Denotes (sides.key.typeName?.getD "") sides.key.type key)
      (second : s.Denotes (sides.value.typeName?.getD "") sides.value.type value) :
      FieldLine s g f ("  " ++ fieldName f.name ++ ": Array<[" ++ key ++ ", " ++ value ++ "]>,")
  | plain {text : String} (other : ∀ e, ¬s.registry.Repeats f e) (type : s.FieldDenotes f text) :
      FieldLine s g f ("  " ++ fieldName f.name ++ (if f.IsMarked g then "?" else "") ++ ": "
        ++ (if f.label = .repeated then "Array<" ++ text ++ ">" else text) ++ ",")

variable {s : FileScope}

theorem denotes_of_resolve {t : FieldType} {typeName? : Option String} {type : FlowType}
    (h : s.resolve t typeName? = .ok type) : s.Denotes (typeName?.getD "") t type.text := by
  cases t with
  | message | group =>
    cases resolve_eq_ok h with
    | message kind entry => exact .message kind entry
    | enum kind _ => cases kind
    | scalar nameless _ => cases nameless
  | enum =>
    cases resolve_eq_ok h with
    | message kind _ => simp at kind
    | enum _ entry => exact .enum entry
    | scalar nameless _ => cases nameless
  | bool =>
    cases h
    exact .boolean
  | string =>
    cases h
    exact .string
  | bytes =>
    cases h
    exact .bytes
  | _ =>
    cases h
    exact .number (by decide)

theorem fieldDenotes_of_fieldType {f : FieldDescriptor} {type : FlowType}
    (h : s.fieldType f = .ok type) : s.FieldDenotes f type.text := by
  unfold fieldType at h
  split at h
  · rename_i integer asks
    cases h
    exact .plain (.inr (by simp [asks])) (.number (.inl integer))
  · rename_i integer asks
    cases h
    exact .held integer asks
  · rename_i number string
    refine .plain ?_ (denotes_of_resolve h)
    cases integer : f.type.isInteger with
    | false => exact .inl rfl
    | true => exact .inr fun asks => string integer asks

theorem fieldLine_of_property {g : FileDescriptor} {f : FieldDescriptor} {p : Property}
    (hd : Dialect.ofFile g = .ok s.dialect) (h : (s.property f).outcome = .ok p) :
    s.FieldLine g f ("  " ++ p.text) := by
  rcases property_cases h with ⟨e, sides, key, value, he, both, hk, hv, rfl⟩ | ⟨he, type, ht, rfl⟩
  · rw [Property.line_map]
    exact .map (Registry.entryOf?_eq_some_iff.mp he) both (denotes_of_resolve hk)
      (denotes_of_resolve hv)
  · have marked := FieldDescriptor.isOptional_iff hd f
    rw [Property.line_plain]
    simp only [marked]
    exact .plain (Registry.not_repeats_of_none he) (fieldDenotes_of_fieldType ht)

theorem repeated_of_fieldLine {g : FileDescriptor} {f : FieldDescriptor} {line : String}
    (h : s.FieldLine g f line) (repeated : f.label = .repeated) :
    ∃ element, line = "  " ++ fieldName f.name ++ ": Array<" ++ element ++ ">," := by
  cases h with
  | @map e sides key value entry both first second =>
    have opening : ": Array<[" = ": Array<" ++ "[" := by decide
    have closing : "]>," = "]" ++ ">," := by decide
    refine ⟨"[" ++ key ++ ", " ++ value ++ "]", ?_⟩
    rw [opening, closing]
    simp only [String.append_assoc]
  | @plain text other type =>
    have unmarked : ¬f.IsMarked g := fun marked => marked.1 repeated
    have opening : ": Array<" = ": " ++ "Array<" := by decide
    have closing : ">," = ">" ++ "," := by decide
    refine ⟨text, ?_⟩
    rw [if_neg unmarked, if_pos repeated, opening, closing]
    simp only [String.append_assoc, String.empty_append]

theorem property_withOneof (f : FieldDescriptor) (i? : Option Int32) :
    (fun p => (p.key, p.type)) <$> (s.property { f with oneofIndex? := i? }).outcome =
      (fun p => (p.key, p.type)) <$> (s.property f).outcome := by
  have sides : s.mapSides? { f with oneofIndex? := i? } = s.mapSides? f := rfl
  have type : s.fieldType { f with oneofIndex? := i? } = s.fieldType f := rfl
  rw [property_outcome, property_outcome, sides, type]
  cases s.mapSides? f with
  | error e => rfl
  | ok sides? =>
    cases sides? with
    | none =>
      cases s.fieldType f with
      | error e => rfl
      | ok type => rfl
    | some sides => rfl

end FileScope

theorem Declaration.lines_render {ds : List Declaration} (h : ∀ d ∈ ds, d.IsUnbroken)
    (exact : Bool) : lines (Layout.render 0 (ds.flatMap (Declaration.layout exact))) =
      (ds.flatMap (Declaration.layout exact)).map Piece.content ++ [""] := by
  apply lines_render_of_unbroken
  · intro p hp
    obtain ⟨d, -, hp⟩ := List.mem_flatMap.mp hp
    exact d.endsLine_layout exact p hp
  · intro p hp
    obtain ⟨d, hd, hp⟩ := List.mem_flatMap.mp hp
    exact (h d hd).layout exact p hp

theorem Declaration.object_content (name : String) (properties : List Property) (exact : Bool) :
    ((Declaration.object name properties).layout exact).map Piece.content =
      ("export type " ++ name ++ " = " ++ (if exact then "\x7b|" else "\x7b"))
        :: properties.map (fun p => "  " ++ p.text)
        ++ [if exact then "|\x7d" else "\x7d", ""] := by
  have closing : (Declaration.object name properties).closing exact =
      if exact then "|\x7d" else "\x7d" := rfl
  rw [Declaration.layout, heading_object, closing, Declaration.body, List.map_map]
  simp only [List.cons_append, List.map_cons, List.map_append, List.map_map]
  rfl

theorem Declaration.lines_object {name : String} {properties : List Property}
    {ds : List Declaration} (h : ∀ d ∈ object name properties :: ds, d.IsUnbroken) (exact : Bool) :
    ∃ rest, lines (Layout.render 0 ((object name properties :: ds).flatMap (layout exact))) =
      ("export type " ++ name ++ " = " ++ (if exact then "\x7b|" else "\x7b"))
        :: properties.map (fun p => "  " ++ p.text)
        ++ (if exact then "|\x7d" else "\x7d") :: rest := by
  rw [lines_render h, List.flatMap_cons, List.map_append, object_content]
  exact ⟨"" :: (ds.flatMap (layout exact)).map Piece.content ++ [""], by simp⟩

/-- Of a request without line breaks, an object type has one line for each field of its message, in
order, between the line that exports it and the first line that closes it. What the line says and
whether it is marked depends on the field alone, and on its oneof only the mark does. -/
theorem objectBody_lines (files : List FileDescriptor) (g : FileDescriptor) (s : FileScope)
    (outer : String) (m : MessageDescriptor) (ds : List Declaration) (exact : Bool)
    (clean : ∀ g ∈ files, ∀ s ∈ g.strings, Unbroken s) (hg : g ∈ files)
    (hs : s.registry = Registry.ofFiles files) (hd : Dialect.ofFile g = .ok s.dialect)
    (hm : ∃ n, (n, m) ∈ g.declaredMessages) (ho : Unbroken outer) (plain : m.isMapEntry = false)
    (h : (s.messageDeclarations outer m).outcome = .ok ds) :
    ∃ body rest, lines (Layout.render 0 (ds.flatMap (Declaration.layout exact))) =
        ("export type " ++ nested outer m.name ++ " = " ++ (if exact then "\x7b|" else "\x7b"))
          :: body ++ (if exact then "|\x7d" else "\x7d") :: rest ∧
      (if exact then "|\x7d" else "\x7d") ∉ body ∧
      List.Forall₂ (s.FieldLine g) m.fields body ∧
      List.Forall₂ (fun f line => f.label = .repeated →
        ∃ element, line = "  " ++ fieldName f.name ++ ": Array<" ++ element ++ ">,") m.fields body ∧
      ∀ f i?, (fun p => (p.key, p.type)) <$> (s.property { f with oneofIndex? := i? }).outcome =
        (fun p => (p.key, p.type)) <$> (s.property f).outcome := by
  obtain ⟨n, hn⟩ := hm
  have registry : s.registry.IsUnbroken := by
    rw [hs]
    exact Registry.isUnbroken_ofFiles clean
  have unbroken := FileScope.isUnbroken_messageDeclarations registry h ho
    (FileDescriptor.forall_strings_of_declared (clean g hg) hn)
  obtain ⟨properties, inner, extensions, hp, -, -, rfl⟩ :=
    FileScope.messageDeclarations_eq_ok plain h
  obtain ⟨rest, page⟩ := Declaration.lines_object unbroken exact
  have body : List.Forall₂ (s.FieldLine g) m.fields (properties.map fun p => "  " ++ p.text) := by
    rw [List.forall₂_map_right_iff]
    exact hp.imp fun f p hfp => FileScope.fieldLine_of_property hd hfp
  refine ⟨_, rest, page, ?_, body, ?_, fun f i? => FileScope.property_withOneof f i?⟩
  · intro mem
    obtain ⟨p, -, hp⟩ := List.mem_map.mp mem
    have first := congrArg (fun s => s.toList.head?) hp
    cases exact <;> simp at first
  · exact body.imp fun f line hline => FileScope.repeated_of_fieldLine hline

def trip : MessageDescriptor where
  name? := some "Trip"
  fields := [
    ((FieldDescriptor.ofType "ids" 1 .int64).withLabel .repeated).withJsType .string,
    ((FieldDescriptor.ofType "legs" 2 .message).withLabel .repeated).withTypeName
      ".Trip.LegsEntry",
    (FieldDescriptor.ofType "seat" 3 .int32).withOneofIndex 0]
  nested := [
    { name? := some "Leg" },
    MapSides.entry ⟨⟨.string, none⟩, ⟨.message, some ".Trip.Leg"⟩⟩ "LegsEntry"]
  oneofs := [{ name? := some "place" }]

def tripFile : FileDescriptor where
  name? := some "trip.proto"
  dialect? := some "proto3"
  messages := [trip]

def tripScope : FileScope := ⟨Registry.ofFiles [tripFile], "trip.proto", .proto3⟩

theorem objectBody_lines_trip : ∃ ds body rest,
    (tripScope.messageDeclarations "" trip).outcome = .ok ds ∧
    lines (Layout.render 0 (ds.flatMap (Declaration.layout false))) =
      "export type Trip = \x7b" :: body ++ "\x7d" :: rest ∧
    List.Forall₂ (tripScope.FieldLine tripFile) trip.fields body ∧
    body = ["  ids: Array<string>,", "  legs: Array<[string, Trip_Leg]>,", "  seat?: number,"] := by
  have read : ((tripScope.messageDeclarations "" trip).outcome.toOption.map fun ds =>
      ((ds.flatMap (Declaration.layout false)).map Piece.content ++ [""]).tail.takeWhile
        (· ≠ "\x7d")) =
      some ["  ids: Array<string>,", "  legs: Array<[string, Trip_Leg]>,", "  seat?: number,"] := by
    decide +kernel
  have clean : ∀ g ∈ [tripFile], ∀ s ∈ g.strings, Unbroken s := by decide
  have declared := (MessageDescriptor.Visible.top (List.mem_singleton_self trip) rfl).declared
    tripFile.scope
  cases h : (tripScope.messageDeclarations "" trip).outcome with
  | error e =>
    rw [h] at read
    cases read
  | ok ds =>
    obtain ⟨body, rest, page, inside, fields, -⟩ := objectBody_lines [tripFile] tripFile tripScope
      "" trip ds false clean List.mem_cons_self rfl rfl declared (by decide) rfl h
    have unbroken := FileScope.isUnbroken_messageDeclarations
      (Registry.isUnbroken_ofFiles clean) h (by decide) (by decide)
    have all : ∀ line ∈ body, decide (line ≠ "\x7d") = true := by
      intro line hline
      rw [decide_eq_true_iff]
      rintro rfl
      exact inside hline
    rw [h] at read
    have between := Option.some.inj read
    dsimp only at between
    rw [← Declaration.lines_render unbroken, page, List.cons_append, List.tail_cons,
      List.takeWhile_append_of_pos all] at between
    refine ⟨ds, body, rest, rfl, page, fields, ?_⟩
    simpa using between

end FlowSchema
