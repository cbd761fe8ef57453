import FlowSchema.Identifier
import FlowSchema.Proofs.CaseMapping
import FlowSchema.Proofs.WordRuns

namespace FlowSchema

open Unicode

namespace Text

def IsAscii (s : List Char) : Prop := ∀ c ∈ s, c.toNat < 128

instance (s : List Char) : Decidable (IsAscii s) := List.decidableBAll _ s

section

variable {c : Char}

theorem lt_of_isUpper (h : c.isUpper = true) : c.toNat < 128 := by
  have bounds : c.val ≥ 'A'.val ∧ c.val ≤ 'Z'.val := of_decide_eq_true h
  exact Nat.lt_of_le_of_lt bounds.2 (by decide)

theorem lt_of_isLower (h : c.isLower = true) : c.toNat < 128 := by
  have bounds := Bool.and_eq_true_iff.mp h
  exact Nat.lt_of_le_of_lt (of_decide_eq_true bounds.2) (by decide)

theorem lt_of_isDigit (h : c.isDigit = true) : c.toNat < 128 :=
  Nat.lt_of_le_of_lt (Char.isDigit_iff_toNat.mp h).2 (by decide)

theorem lt_of_isAlphanum (h : c.isAlphanum = true) : c.toNat < 128 := by
  rcases Bool.or_eq_true_iff.mp h with letter | digit
  · rcases Bool.or_eq_true_iff.mp letter with upper | lower
    · exact lt_of_isUpper upper
    · exact lt_of_isLower lower
  · exact lt_of_isDigit digit

theorem toLower_of_le (h : 128 ≤ c.toNat) : c.toLower = c := by
  refine dif_neg ?_
  rintro ⟨-, upper⟩
  have bound : c.toNat ≤ 90 := upper
  omega

end

theorem isAlphanum_toLower (c : Char) : c.toLower.isAlphanum = c.isAlphanum := by
  rcases Nat.lt_or_ge c.toNat 128 with ascii | wide
  · exact forall_ascii (P := fun c => c.toLower.isAlphanum = c.isAlphanum) (by decide) ascii
  · rw [toLower_of_le wide]

theorem isWordChar_of_ascii {c : Char} (h : c.toNat < 128) : isWordChar c = c.isAlphanum := by
  rw [isWordChar, isAlphabetic, isNumber, if_pos h, if_pos h, Char.isAlphanum]

theorem lower_of_ascii {s : List Char} (ascii : IsAscii s) : lower s = s.map Char.toLower := by
  have after : ∀ before, lowerAfter before s = s.map Char.toLower := by
    induction s with
    | nil => exact fun _ => rfl
    | cons c s ih =>
      obtain ⟨first, rest⟩ := List.forall_mem_cons.mp ascii
      intro before
      have plain : c ≠ 'Σ' := fun sigma => absurd first (by rw [sigma]; decide)
      rw [lowerAfter, if_neg plain, lowerMapping, if_pos first, ih rest]
      rfl
  exact after []

def IsLowered (s : List Char) : Prop := ∀ c ∈ s, c.toNat < 128 ∧ c.toLower = c

theorem isLowered_map {s : List Char} (ascii : IsAscii s) : IsLowered (s.map Char.toLower) := by
  intro d hd
  obtain ⟨c, hc, rfl⟩ := List.mem_map.mp hd
  exact forall_ascii (P := fun c => c.toLower.toNat < 128 ∧ c.toLower.toLower = c.toLower)
    (by decide) (ascii c hc)

namespace IsLowered

variable {c : Char} {s w : List Char}

theorem not_upper (h : IsLowered s) (hc : c ∈ s) : isUppercase c = false := by
  obtain ⟨ascii, fixed⟩ := h c hc
  rw [isUppercase, if_pos ascii]
  exact forall_ascii (P := fun c => c.toLower = c → c.isUpper = false) (by decide) ascii fixed

theorem lowerWord (h : IsLowered w) : Text.lowerWord w = w := by
  fun_induction Text.lowerWord w with
  | case1 => rfl
  | case2 => exact absurd (h 'Σ' (by simp)).1 (by decide)
  | case3 c =>
    obtain ⟨ascii, fixed⟩ := h c (by simp)
    rw [lowerMapping, if_pos ascii, fixed]
  | case4 c d rest ih =>
    obtain ⟨⟨ascii, fixed⟩, others⟩ := List.forall_mem_cons.mp h
    rw [ih others, lowerMapping, if_pos ascii, fixed]
    rfl

end IsLowered

theorem humps_of_not_upper {t : Tone} {w : List Char} (ne : w ≠ [])
    (h : ∀ c ∈ w, isUppercase c = false) : humps t w = [w] := by
  fun_induction humps t w with
  | case1 => exact absurd rfl ne
  | case2 => rfl
  | case3 t c d rest cut ih =>
    rw [h d (by simp)] at cut
    exact absurd cut.2 (by decide)
  | case4 t c d rest _ cut ih =>
    rw [h c (by simp)] at cut
    exact absurd cut.2.1 (by decide)
  | case5 t c d rest _ _ ih =>
    rw [ih (List.cons_ne_nil d rest) fun e he => h e (List.mem_cons_of_mem c he)]
    rfl

theorem words_of_lowered {s : List Char} (h : IsLowered s) : words s = runs s := by
  have parted : s.splitOnP (!isWordChar ·) = s.splitOnP (!·.isAlphanum) := by
    refine splitOnP_congr fun c hc => ?_
    rw [isWordChar_of_ascii (h c hc).1]
  rw [words, parted]
  have whole : ∀ w ∈ runs s, humps .none w = [w] := by
    intro w hw
    exact humps_of_not_upper (ne_nil_of_mem_runs hw) fun c hc => h.not_upper (mem_of_mem_runs hw hc)
  have humps_runs := List.flatMap_congr whole
  rwa [List.flatMap_singleton'] at humps_runs

def initialUpper : List Char → List Char
  | [] => []
  | c :: w => c.toUpper :: w

def humped (ws : List (List Char)) : List Char := ws.flatMap initialUpper

def humpedAfterFirst : List (List Char) → List Char
  | [] => []
  | w :: ws => w ++ humped ws

theorem initialUpper_humpedAfterFirst {ws : List (List Char)} (ne : ∀ w ∈ ws, w ≠ []) :
    initialUpper (humpedAfterFirst ws) = humped ws := by
  cases ws with
  | nil => rfl
  | cons w ws =>
    obtain ⟨c, w, rfl⟩ := List.exists_cons_of_ne_nil (ne w List.mem_cons_self)
    rfl

theorem IsLowered.capitalize {w : List Char} (h : IsLowered w) :
    Text.capitalize w = initialUpper w := by
  cases w with
  | nil => rfl
  | cons c w =>
    obtain ⟨⟨ascii, -⟩, rest⟩ := List.forall_mem_cons.mp h
    rw [Text.capitalize, upperMapping, if_pos ascii, IsLowered.lowerWord rest]
    rfl

def loweredRuns (s : List Char) : List (List Char) := (runs s).map (List.map Char.toLower)

section

variable {s w : List Char} (ascii : IsAscii s)

include ascii

theorem words_lower : words (lower s) = loweredRuns s := by
  rw [lower_of_ascii ascii, words_of_lowered (isLowered_map ascii), runs_map isAlphanum_toLower]
  rfl

theorem isLowered_of_mem (h : w ∈ loweredRuns s) : IsLowered w := by
  obtain ⟨v, hv, rfl⟩ := List.mem_map.mp h
  exact isLowered_map fun c hc => ascii c (mem_of_mem_runs hv hc)

theorem upperCamel_lower : upperCamel (lower s) = humped (loweredRuns s) := by
  rw [upperCamel, words_lower ascii]
  exact List.flatMap_congr fun w hw => (isLowered_of_mem ascii hw).capitalize

theorem lowerCamel_lower : lowerCamel (lower s) = humpedAfterFirst (loweredRuns s) := by
  rw [lowerCamel, words_lower ascii]
  have low : ∀ w ∈ loweredRuns s, IsLowered w := fun w hw => isLowered_of_mem ascii hw
  cases h : loweredRuns s with
  | nil => rfl
  | cons w ws =>
    rw [h] at low
    obtain ⟨first, rest⟩ := List.forall_mem_cons.mp low
    have humps : ws.flatMap Text.capitalize = humped ws :=
      List.flatMap_congr fun v hv => (rest v hv).capitalize
    simp only [humpedAfterFirst, first.lowerWord, humps]

end

/-- One name in place of another: letters of another case, another gap between two words, or a gap
in front or behind. -/
inductive Respelled : List Char → List Char → Prop
  | recase {s t : List Char} (letters : s.map Char.toLower = t.map Char.toLower) : Respelled s t
  | part (s t : List Char) {gap other : List Char} (separators : IsGap gap) (nonempty : gap ≠ [])
      (separators' : IsGap other) (nonempty' : other ≠ []) :
      Respelled (s ++ gap ++ t) (s ++ other ++ t)
  | lead (s : List Char) {gap : List Char} (separators : IsGap gap) : Respelled s (gap ++ s)
  | trail (s : List Char) {gap : List Char} (separators : IsGap gap) : Respelled s (s ++ gap)

theorem Respelled.loweredRuns_eq {s t : List Char} (h : Respelled s t) :
    loweredRuns s = loweredRuns t := by
  cases h with
  | recase letters =>
    rw [loweredRuns, loweredRuns, ← runs_map isAlphanum_toLower, letters,
      runs_map isAlphanum_toLower]
  | part s t separators nonempty separators' nonempty' =>
    rw [loweredRuns, loweredRuns, runs_append_gap_append separators nonempty,
      runs_append_gap_append separators' nonempty']
  | lead s separators => rw [loweredRuns, loweredRuns, runs_gap_append separators]
  | trail s separators => rw [loweredRuns, loweredRuns, runs_append_gap separators]

end Text

namespace Identifier

open Text

theorem oneofName_of_ascii {s : String} (ascii : IsAscii s.toList) :
    oneofName s = String.ofList (humped (loweredRuns s.toList)) := by
  rw [oneofName, upperCamel_lower ascii]

theorem camel_of_ascii {s : String} (ascii : IsAscii s.toList) :
    camel s = String.ofList (humpedAfterFirst (loweredRuns s.toList)) := by
  rw [camel, lowerCamel_lower ascii]

theorem names_of_runs {s : String} (ascii : IsAscii s.toList) :
    ∃ ws text, (∀ vs, Runs s.toList vs ↔ vs = ws) ∧
      oneofName s = String.ofList (humped (ws.map (List.map Char.toLower))) ∧
      text = String.ofList (humpedAfterFirst (ws.map (List.map Char.toLower))) ∧
      fieldName s = (if text ∈ reserved then "pb_" ++ text else text) ∧
      ∀ t : String, IsAscii t.toList → Respelled s.toList t.toList →
        oneofName t = oneofName s ∧ fieldName t = fieldName s := by
  refine ⟨runs s.toList, camel s, ?_, oneofName_of_ascii ascii, camel_of_ascii ascii, rfl, ?_⟩
  · intro vs
    rw [runs_iff, eq_comm]
  · intro t ascii' respelled
    have same := respelled.loweredRuns_eq
    constructor
    · rw [oneofName_of_ascii ascii, oneofName_of_ascii ascii', same]
    · rw [fieldName, fieldName, camel_of_ascii ascii, camel_of_ascii ascii', same]

theorem names_of_runs_lives :
    IsAscii "__HTTP2_9lives".toList ∧
    Runs "__HTTP2_9lives".toList ["HTTP2".toList, "9lives".toList] ∧
    oneofName "__HTTP2_9lives" = "Http29lives" ∧ fieldName "__HTTP2_9lives" = "http29lives" ∧
    Respelled "__HTTP2_9lives".toList "__HTTP2-.9lives".toList ∧
    fieldName "__HTTP2-.9lives" = "http29lives" := by
  have ascii : IsAscii "__HTTP2_9lives".toList := by decide
  have parted : Runs "__HTTP2_9lives".toList ["HTTP2".toList, "9lives".toList] :=
    runs_iff.mpr (by decide)
  have line : IsGap ['_'] := by decide
  have dots : IsGap ['-', '.'] := by decide
  have respelled : Respelled "__HTTP2_9lives".toList "__HTTP2-.9lives".toList :=
    .part "__HTTP2".toList "9lives".toList line (by decide) dots (by decide)
  obtain ⟨ws, text, unique, oneof, rfl, field, spelling⟩ := names_of_runs ascii
  obtain rfl := (unique _).mp parted
  have free : String.ofList (humpedAfterFirst
      (["HTTP2".toList, "9lives".toList].map (List.map Char.toLower))) = "http29lives" := by decide
  rw [free, if_neg (by decide)] at field
  refine ⟨ascii, parted, oneof.trans (by decide), field, respelled, ?_⟩
  rw [(spelling _ (by decide) respelled).2, field]

end Identifier

end FlowSchema
