import FlowSchema.Descriptor.Draft
import FlowSchema.Proofs.AsciiNames
import FlowSchema.Proofs.Resolved
import Mathlib.Data.List.Find

namespace FlowSchema

open Unicode

namespace Text

theorem forall_humped {P : Char → Prop} (upper : ∀ c, P c → P c.toUpper) {ws : List (List Char)}
    (h : ∀ w ∈ ws, ∀ c ∈ w, P c) : ∀ c ∈ humped ws, P c := by
  intro c hc
  obtain ⟨w, hw, hc⟩ := List.mem_flatMap.mp hc
  cases w with
  | nil => cases hc
  | cons d w =>
    rcases List.mem_cons.mp hc with rfl | hc
    · exact upper d (h _ hw d List.mem_cons_self)
    · exact h _ hw c (List.mem_cons_of_mem d hc)

theorem forall_humpedAfterFirst {P : Char → Prop} (upper : ∀ c, P c → P c.toUpper)
    {ws : List (List Char)} (h : ∀ w ∈ ws, ∀ c ∈ w, P c) : ∀ c ∈ humpedAfterFirst ws, P c := by
  cases ws with
  | nil => exact fun c hc => by cases hc
  | cons w ws =>
    obtain ⟨first, rest⟩ := List.forall_mem_cons.mp h
    exact List.forall_mem_append.mpr ⟨first, forall_humped upper rest⟩

theorem isAlphanum_toUpper (c : Char) (h : c.isAlphanum = true) : c.toUpper.isAlphanum = true :=
  forall_ascii (P := fun c => c.isAlphanum = true → c.toUpper.isAlphanum = true) (by decide)
    (lt_of_isAlphanum h) h

theorem isAlpha_toLower {c : Char} (h : c.isAlphanum = true) : c.toLower.isAlpha = c.isAlpha :=
  forall_ascii (P := fun c => c.toLower.isAlpha = c.isAlpha) (by decide) (lt_of_isAlphanum h)

theorem head?_humpedAfterFirst {ws : List (List Char)} (ne : ∀ w ∈ ws, w ≠ []) :
    (humpedAfterFirst ws).head? = ws.head?.bind List.head? := by
  cases ws with
  | nil => rfl
  | cons w ws =>
    obtain ⟨c, w, rfl⟩ := List.exists_cons_of_ne_nil (ne w List.mem_cons_self)
    rfl

theorem head?_loweredRuns (s : List Char) :
    (loweredRuns s).head?.bind List.head? = (s.find? Char.isAlphanum).map Char.toLower := by
  rw [find?_of_runs (runs_iff.mpr rfl), loweredRuns]
  cases runs s with
  | nil => rfl
  | cons w ws => exact List.head?_map

end Text

namespace Identifier

open Text

def IsIdentifier (name : String) : Prop :=
  name.toList.head?.any (fun c => c.isAlpha || c = '_') = true ∧
    ∀ c ∈ name.toList, (c.isAlphanum || c = '_') = true

instance (name : String) : Decidable (IsIdentifier name) :=
  @instDecidableAnd _ _ _ (List.decidableBAll _ name.toList)

theorem isIdentifier_of_reserved : ∀ word ∈ reserved, IsIdentifier word := by
  decide +kernel

theorem isIdentifier_escaped {name : String} (h : IsIdentifier name) :
    IsIdentifier ("pb_" ++ name) := by
  have front : IsIdentifier "pb_" := by decide
  rw [IsIdentifier, String.toList_append]
  exact ⟨rfl, List.forall_mem_append.mpr ⟨front.2, h.2⟩⟩

theorem isIdentifier_escape {name : String} : IsIdentifier (escape name) ↔ IsIdentifier name := by
  unfold escape
  split
  · rename_i word
    have plain := isIdentifier_of_reserved name word
    exact iff_of_true (isIdentifier_escaped plain) plain
  · exact Iff.rfl

section

variable {name : String} (h : IsIdentifier name)

include h

theorem IsIdentifier.isAscii : IsAscii name.toList := by
  intro c hc
  rcases Bool.or_eq_true_iff.mp (h.2 c hc) with word | line
  · exact lt_of_isAlphanum word
  · rw [of_decide_eq_true line]
    decide

theorem IsIdentifier.find?_isAlphanum :
    name.toList.find? Char.isAlphanum = name.toList.find? (· ≠ '_') := by
  refine List.find?_congr fun c hc => ?_
  rcases Bool.or_eq_true_iff.mp (h.2 c hc) with word | line
  · have other : c ≠ '_' := fun same => by simp [same] at word
    rw [word, decide_eq_true other]
  · rw [of_decide_eq_true line]
    decide

theorem IsIdentifier.isAlphanum_camel : ∀ c ∈ (camel name).toList, c.isAlphanum = true := by
  rw [camel_of_ascii h.isAscii, String.toList_ofList]
  refine forall_humpedAfterFirst isAlphanum_toUpper fun w hw c hc => ?_
  obtain ⟨v, hv, rfl⟩ := List.mem_map.mp hw
  obtain ⟨d, hd, rfl⟩ := List.mem_map.mp hc
  rw [isAlphanum_toLower, isAlphanum_of_mem_runs hv hd]

theorem IsIdentifier.head?_camel :
    (camel name).toList.head? = (name.toList.find? (· ≠ '_')).map Char.toLower := by
  have ne : ∀ w ∈ loweredRuns name.toList, w ≠ [] := by
    intro w hw
    obtain ⟨v, hv, rfl⟩ := List.mem_map.mp hw
    simpa using ne_nil_of_mem_runs hv
  rw [camel_of_ascii h.isAscii, String.toList_ofList, head?_humpedAfterFirst ne,
    head?_loweredRuns, h.find?_isAlphanum]

theorem IsIdentifier.camel_iff : IsIdentifier (camel name) ↔
    ∃ c, name.toList.find? (· ≠ '_') = some c ∧ c.isAlpha = true := by
  have chars : ∀ c ∈ (camel name).toList, (c.isAlphanum || c = '_') = true :=
    fun c hc => by rw [h.isAlphanum_camel c hc, Bool.true_or]
  rw [IsIdentifier, and_iff_left chars, h.head?_camel, ← h.find?_isAlphanum]
  cases first : name.toList.find? Char.isAlphanum with
  | none => simp
  | some c =>
    have word : c.isAlphanum = true := List.find?_some first
    have other : c.toLower ≠ '_' := by
      intro line
      rw [← isAlphanum_toLower, line] at word
      exact absurd word (by decide)
    simp [isAlpha_toLower word, other]

end

theorem fieldName_isIdentifier_iff {name : String} (h : IsIdentifier name) :
    (IsIdentifier (fieldName name) ↔
      ∃ c, name.toList.find? (· ≠ '_') = some c ∧ c.isAlpha = true) ∧
    (∀ c ∈ (fieldName name).toList, (c.isAlphanum || c = '_') = true) ∧
    ∀ (s : FileScope) (f : FieldDescriptor), f.name = name →
      (∀ p, (s.property f).outcome = .ok p → p.key = fieldName name) ∧
      ∀ d, (s.extension "" f).outcome = .ok d → d.name = fieldName name := by
  refine ⟨isIdentifier_escape.trans h.camel_iff, ?_, ?_⟩
  · intro c hc
    rw [fieldName, escape] at hc
    split at hc
    · rename_i word
      exact (isIdentifier_escaped (isIdentifier_of_reserved _ word)).2 c hc
    · rw [h.isAlphanum_camel c hc, Bool.true_or]
  · rintro s f rfl
    constructor
    · exact fun p => FileScope.property_key
    · intro d hd
      obtain ⟨type, -, parts⟩ := FileScope.extension_eq_ok hd
      rw [parts, Declaration.name, nested, if_pos rfl]

theorem fieldName_isIdentifier_iff_class :
    IsIdentifier "__CLASS" ∧ IsIdentifier (fieldName "__CLASS") ∧
    (FileScope.property ⟨Registry.empty, "shelf.proto", .proto3⟩
      (.ofType "__CLASS" 1 .string)).outcome = .ok ⟨"pb_class", false, .string⟩ ∧
    fieldName "__CLASS" = "pb_class" := by
  have given : IsIdentifier "__CLASS" := by decide
  have property : (FileScope.property ⟨Registry.empty, "shelf.proto", .proto3⟩
      (.ofType "__CLASS" 1 .string)).outcome = .ok ⟨"pb_class", false, .string⟩ := by
    decide +kernel
  obtain ⟨exact, -, uses⟩ := fieldName_isIdentifier_iff given
  have key := (uses _ _ rfl).1 _ property
  exact ⟨given, exact.mpr ⟨'C', by decide, by decide⟩, property, key.symm⟩

def scoreFile : FileDescriptor where
  name? := some "score.proto"
  messages := [{ name? := some "Score", fields := [.ofType "_" 1 .string] }]
  extensions := [(FieldDescriptor.ofType "_1" 100 .int32).withExtendee ".Score"]

theorem fieldName_not_identifier :
    (IsIdentifier "_" ∧ fieldName "_" = "" ∧ ¬IsIdentifier (fieldName "_")) ∧
    (IsIdentifier "_1" ∧ fieldName "_1" = "1" ∧ ¬IsIdentifier (fieldName "_1")) ∧
    (generate {} [scoreFile] ["score.proto"]).outcome = .ok [⟨"score_pb.js",
      "// @flow\n// package: \n// file: score.proto\n\n"
        ++ "export type Score = \x7b\n  ?: string,\n\x7d\n\n"
        ++ "export type 1 = \x7b\n  fieldNumber: 100,\n  extendee: \"Score\",\n"
        ++ "  value?: number,\n\x7d\n\n"⟩] := by
  decide +kernel

end Identifier

end FlowSchema
