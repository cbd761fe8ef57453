import FlowSchema.Proofs.AsciiNames
import FlowSchema.Proofs.Escaping
import FlowSchema.Proofs.Rendered
import FlowSchema.Proofs.Resolved
import Mathlib.Data.List.Nodup

namespace FlowSchema

open Unicode

namespace Text

def IsSnakeWord (w : List Char) : Prop :=
  w.head?.any Char.isLower = true ∧ ∀ c ∈ w, (c.isLower || c.isDigit) = true

instance (w : List Char) : Decidable (IsSnakeWord w) :=
  @instDecidableAnd _ _ _ (List.decidableBAll _ w)

theorem snakeChar_facts {c : Char} (h : (c.isLower || c.isDigit) = true) :
    c.toNat < 128 ∧ c.isAlphanum = true ∧ c.toLower = c ∧ c.isUpper = false := by
  have ascii : c.toNat < 128 := by
    rcases Bool.or_eq_true_iff.mp h with small | digit
    · exact lt_of_isLower small
    · exact lt_of_isDigit digit
  refine ⟨ascii, ?_⟩
  exact forall_ascii (P := fun c => (c.isLower || c.isDigit) = true →
    c.isAlphanum = true ∧ c.toLower = c ∧ c.isUpper = false) (by decide) ascii h

theorem toUpper_facts {c : Char} (h : c.isLower = true) :
    c.toUpper.isUpper = true ∧ c.toUpper.toLower = c := by
  have ascii : c.toNat < 128 := (snakeChar_facts (by rw [h, Bool.true_or])).1
  exact forall_ascii (P := fun c => c.isLower = true →
    c.toUpper.isUpper = true ∧ c.toUpper.toLower = c) (by decide) ascii h

theorem IsSnakeWord.exists_cons {w : List Char} (h : IsSnakeWord w) :
    ∃ c rest, w = c :: rest ∧ c.isLower = true ∧ ∀ d ∈ rest, d.isUpper = false := by
  obtain ⟨first, chars⟩ := h
  cases w with
  | nil => cases first
  | cons c rest =>
    refine ⟨c, rest, rfl, by simpa using first, fun d hd => ?_⟩
    exact (snakeChar_facts (chars d (List.mem_cons_of_mem c hd))).2.2.2

theorem IsSnakeWord.ne_nil {w : List Char} (h : IsSnakeWord w) : w ≠ [] := by
  obtain ⟨c, rest, rfl, -, -⟩ := h.exists_cons
  exact List.cons_ne_nil c rest

section

variable {ws vs : List (List Char)}

theorem humped_cons_eq {c : Char} {rest : List Char} :
    humped ((c :: rest) :: ws) = c.toUpper :: (rest ++ humped ws) := rfl

theorem isUpper_head_humped (hw : ∀ w ∈ ws, IsSnakeWord w) :
    ∀ c, (humped ws).head? = some c → c.isUpper = true := by
  cases ws with
  | nil => exact fun c h => by cases h
  | cons w ws =>
    obtain ⟨c, rest, rfl, small, -⟩ := (hw w List.mem_cons_self).exists_cons
    rintro d ⟨⟩
    exact (toUpper_facts small).1

theorem append_humped_inj {s t : List Char} (hs : ∀ c ∈ s, c.isUpper = false)
    (hw : ∀ w ∈ ws, IsSnakeWord w) (ht : ∀ c ∈ t, c.isUpper = false)
    (hv : ∀ v ∈ vs, IsSnakeWord v) (h : s ++ humped ws = t ++ humped vs) :
    s = t ∧ humped ws = humped vs := by
  refine append_inj_of_split (p := (!·.isUpper)) ?_ ?_ ?_ ?_ h
  · exact fun c hc => by rw [hs c hc, Bool.not_false]
  · exact fun c hc => by rw [isUpper_head_humped hw c hc, Bool.not_true]
  · exact fun c hc => by rw [ht c hc, Bool.not_false]
  · exact fun c hc => by rw [isUpper_head_humped hv c hc, Bool.not_true]

theorem humped_inj (hw : ∀ w ∈ ws, IsSnakeWord w) (hv : ∀ v ∈ vs, IsSnakeWord v)
    (h : humped ws = humped vs) : ws = vs := by
  induction ws generalizing vs with
  | nil =>
    cases vs with
    | nil => rfl
    | cons v vs =>
      obtain ⟨d, after, rfl, -, -⟩ := (hv v List.mem_cons_self).exists_cons
      cases h
  | cons w ws ih =>
    obtain ⟨w_snake, ws_snake⟩ := List.forall_mem_cons.mp hw
    obtain ⟨c, rest, rfl, c_small, rest_small⟩ := w_snake.exists_cons
    cases vs with
    | nil => cases h
    | cons v vs =>
      obtain ⟨v_snake, vs_snake⟩ := List.forall_mem_cons.mp hv
      obtain ⟨d, after, rfl, d_small, after_small⟩ := v_snake.exists_cons
      rw [humped_cons_eq, humped_cons_eq, List.cons.injEq] at h
      have same : c = d := by
        rw [← (toUpper_facts c_small).2, h.1, (toUpper_facts d_small).2]
      obtain ⟨rfl, others⟩ := append_humped_inj rest_small ws_snake after_small vs_snake h.2
      rw [same, ih ws_snake vs_snake others]

theorem humpedAfterFirst_inj (hw : ∀ w ∈ ws, IsSnakeWord w) (hv : ∀ v ∈ vs, IsSnakeWord v)
    (h : humpedAfterFirst ws = humpedAfterFirst vs) : ws = vs := by
  have capitals := congrArg initialUpper h
  rw [initialUpper_humpedAfterFirst fun w hw' => (hw w hw').ne_nil,
    initialUpper_humpedAfterFirst fun v hv' => (hv v hv').ne_nil] at capitals
  exact humped_inj hw hv capitals

theorem runs_intercalate (hw : ∀ w ∈ ws, IsSnakeWord w) : runs (['_'].intercalate ws) = ws := by
  have alone {w : List Char} (hw : IsSnakeWord w) : runs w = [w] :=
    runs_word hw.ne_nil fun c hc => (snakeChar_facts (hw.2 c hc)).2.1
  have line : IsGap ['_'] := by decide
  induction ws with
  | nil => rfl
  | cons w ws ih =>
    obtain ⟨first, rest⟩ := List.forall_mem_cons.mp hw
    cases ws with
    | nil => rw [List.intercalate_singleton, alone first]
    | cons v vs =>
      rw [List.intercalate_cons_cons, runs_append_gap_append line (by decide), alone first, ih rest]
      rfl

theorem isAscii_intercalate (hw : ∀ w ∈ ws, IsSnakeWord w) : IsAscii (['_'].intercalate ws) := by
  have small {w : List Char} (hw : IsSnakeWord w) : IsAscii w :=
    fun c hc => (snakeChar_facts (hw.2 c hc)).1
  have line : IsAscii ['_'] := by decide
  induction ws with
  | nil => exact fun c hc => by cases hc
  | cons w ws ih =>
    obtain ⟨first, rest⟩ := List.forall_mem_cons.mp hw
    cases ws with
    | nil =>
      rw [List.intercalate_singleton]
      exact small first
    | cons v vs =>
      rw [List.intercalate_cons_cons]
      exact List.forall_mem_append.mpr
        ⟨List.forall_mem_append.mpr ⟨small first, line⟩, ih rest⟩

end

end Text

namespace Identifier

open Text

def IsSnakeCase (s : String) : Prop := ∀ w ∈ s.toList.splitOn '_', IsSnakeWord w

instance (s : String) : Decidable (IsSnakeCase s) := List.decidableBAll _ _

section

variable {s t : String}

theorem IsSnakeCase.isAscii (h : IsSnakeCase s) : IsAscii s.toList := by
  have ascii := isAscii_intercalate h
  rwa [List.intercalate_splitOn] at ascii

theorem IsSnakeCase.loweredRuns (h : IsSnakeCase s) :
    loweredRuns s.toList = s.toList.splitOn '_' := by
  have parted := runs_intercalate h
  rw [List.intercalate_splitOn] at parted
  rw [Text.loweredRuns, parted]
  have fixed : ∀ w ∈ s.toList.splitOn '_', w.map Char.toLower = id w := by
    intro w hw
    rw [id, List.map_congr_left fun c hc => (snakeChar_facts ((h w hw).2 c hc)).2.2.1, List.map_id']
  rw [List.map_congr_left fixed, List.map_id]

theorem eq_of_splitOn_eq (h : s.toList.splitOn '_' = t.toList.splitOn '_') : s = t := by
  have joined := congrArg ['_'].intercalate h
  rwa [List.intercalate_splitOn, List.intercalate_splitOn, String.toList_inj] at joined

theorem IsSnakeCase.oneofName_inj (hs : IsSnakeCase s) (ht : IsSnakeCase t)
    (h : oneofName s = oneofName t) : s = t := by
  rw [oneofName_of_ascii hs.isAscii, oneofName_of_ascii ht.isAscii, String.ofList_inj,
    hs.loweredRuns, ht.loweredRuns] at h
  exact eq_of_splitOn_eq (humped_inj hs ht h)

theorem IsSnakeCase.fieldName_inj (hs : IsSnakeCase s) (ht : IsSnakeCase t)
    (h : fieldName s = fieldName t) : s = t := by
  rw [Identifier.fieldName_inj, camel_of_ascii hs.isAscii, camel_of_ascii ht.isAscii,
    String.ofList_inj, hs.loweredRuns, ht.loweredRuns] at h
  exact eq_of_splitOn_eq (humpedAfterFirst_inj hs ht h)

end

end Identifier

open Identifier

theorem FileScope.property_keys {s : FileScope} {fields : List FieldDescriptor}
    {properties : List Property}
    (h : List.Forall₂ (fun f p => (s.property f).outcome = .ok p) fields properties) :
    properties.map Property.key = fields.map fun f => fieldName f.name :=
  map_eq_map_of_forall₂ h fun _ _ _ => property_key

theorem snakeCase_names_stay_distinct :
    (∀ s t, IsSnakeCase s → IsSnakeCase t → s ≠ t →
      fieldName s ≠ fieldName t ∧ oneofName s ≠ oneofName t) ∧
    ∀ (s : FileScope) (outer : String) (m : MessageDescriptor) (ds : List Declaration),
      m.isMapEntry = false → (∀ f ∈ m.fields, IsSnakeCase f.name) →
      (m.fields.map FieldDescriptor.name).Nodup →
      (s.messageDeclarations outer m).outcome = .ok ds →
      ∃ properties others, ds = .object (nested outer m.name) properties :: others ∧
        properties.map Property.key = m.fields.map (fun f => fieldName f.name) ∧
        (properties.map Property.key).Nodup := by
  constructor
  · intro s t hs ht other
    exact ⟨fun same => other (hs.fieldName_inj ht same), fun same => other (hs.oneofName_inj ht same)⟩
  · intro s outer m ds plain snake distinct h
    obtain ⟨properties, inner, extensions, hproperties, -, -, rfl⟩ :=
      FileScope.messageDeclarations_eq_ok plain h
    have keys := FileScope.property_keys hproperties
    refine ⟨properties, _, rfl, keys, ?_⟩
    have names : properties.map Property.key = (m.fields.map FieldDescriptor.name).map fieldName := by
      rw [keys, List.map_map, Function.comp_def]
    rw [names]
    refine List.Nodup.map_on (fun s hs t ht same => ?_) distinct
    obtain ⟨f, hf, rfl⟩ := List.mem_map.mp hs
    obtain ⟨g, hg, rfl⟩ := List.mem_map.mp ht
    exact (snake f hf).fieldName_inj (snake g hg) same

def shelf : MessageDescriptor where
  name? := some "Shelf"
  fields := [FieldDescriptor.ofType "class" 1 .string, FieldDescriptor.ofType "pb_class" 2 .string,
    FieldDescriptor.ofType "new_value" 3 .bool, FieldDescriptor.ofType "newvalue" 4 .bool]

theorem snakeCase_names_stay_distinct_shelf :
    IsSnakeCase "class" ∧ IsSnakeCase "pb_class" ∧ fieldName "class" ≠ fieldName "pb_class" ∧
    ∃ properties others, (FileScope.messageDeclarations ⟨Registry.empty, "shelf.proto", .proto3⟩ ""
        shelf).outcome = .ok (.object "Shelf" properties :: others) ∧
      properties.map Property.key = ["pb_class", "pbClass", "newValue", "newvalue"] ∧
      (properties.map Property.key).Nodup := by
  have reserved : IsSnakeCase "class" := by decide
  have escaped : IsSnakeCase "pb_class" := by decide
  obtain ⟨names, keys⟩ := snakeCase_names_stay_distinct
  have page : (FileScope.messageDeclarations ⟨Registry.empty, "shelf.proto", .proto3⟩ ""
      shelf).outcome = .ok [.object "Shelf" [⟨"pb_class", false, .string⟩,
        ⟨"pbClass", false, .string⟩, ⟨"newValue", false, .boolean⟩,
        ⟨"newvalue", false, .boolean⟩]] := by
    decide +kernel
  obtain ⟨properties, others, parts, shown, distinct⟩ :=
    keys _ "" shelf _ rfl (by decide) (by decide) page
  refine ⟨reserved, escaped, (names _ _ reserved escaped (by decide)).1, properties, others, ?_,
    shown.trans (by decide), distinct⟩
  have name : nested "" shelf.name = "Shelf" := by decide
  rw [page, parts, name]

end FlowSchema
