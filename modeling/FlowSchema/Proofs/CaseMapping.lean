import FlowSchema.Proofs.Splitting
import FlowSchema.Text.Words

namespace FlowSchema

namespace Unicode

def IsMark (c : Char) : Prop := c.toNat < 128 ∧ c.isAlpha = false

def Shift.avoidsMarks (s : Shift) : Bool :=
  if 128 ≤ s.target then
    decide (s.target.isValidChar ∧ (s.target + (s.last - s.first)).isValidChar ∧
      (s.target < 0xD800 → s.target + (s.last - s.first) < 0xD800))
  else decide (s.first = s.last) && (Char.ofNat s.target).isAlpha

def avoidsMark (n : Nat) : Bool := (Char.ofNat n).isAlpha || decide (128 ≤ n ∧ n.isValidChar)

theorem not_isMark_of_avoidsMark {n : Nat} (h : avoidsMark n = true) : ¬IsMark (Char.ofNat n) := by
  rintro ⟨ascii, letter⟩
  simp only [avoidsMark, letter, Bool.false_or, decide_eq_true_eq] at h
  have hn : (Char.ofNat n).toNat = n := by
    rw [Char.ofNat, dif_pos h.2]
    exact UInt32.toNat_ofNatLT
  omega

theorem Shift.avoidsMark_image {s : Shift} (hs : s.avoidsMarks = true) {n k : Nat}
    (h : s.image? n = some k) : avoidsMark k = true := by
  simp only [image?, Run.contains, Option.ite_none_right_eq_some, Option.some.injEq,
    Bool.and_eq_true, decide_eq_true_eq] at h
  obtain ⟨⟨⟨hfirst, hlast⟩, -⟩, rfl⟩ := h
  unfold avoidsMarks at hs
  split at hs
  · simp only [decide_eq_true_eq, Nat.isValidChar] at hs
    simp only [avoidsMark, Bool.or_eq_true, decide_eq_true_eq, Nat.isValidChar]
    omega
  · simp only [Bool.and_eq_true, decide_eq_true_eq] at hs
    have hn : n - s.first = 0 := by omega
    rw [hn, Nat.add_zero, avoidsMark, hs.2, Bool.true_or]

theorem lowerShifts_avoidMarks : ∀ s ∈ lowerShifts, s.avoidsMarks = true := by
  decide +kernel

theorem upperShifts_avoidMarks : ∀ s ∈ upperShifts, s.avoidsMarks = true := by
  decide +kernel

theorem upperExpansions_avoidMarks : ∀ e ∈ upperExpansions, ∀ n ∈ e.2, avoidsMark n = true := by
  decide +kernel

theorem lowerExpansions_avoidMarks : ∀ e ∈ lowerExpansions, ∀ n ∈ e.2, avoidsMark n = true := by
  decide +kernel

theorem forall_ascii {P : Char → Prop} (h : ∀ n < 128, P (Char.ofNat n)) {c : Char}
    (hc : c.toNat < 128) : P c := by
  have hn := h c.toNat hc
  rwa [Char.ofNat_toNat] at hn

theorem eq_of_isMark_toLower {c : Char} (hc : c.toNat < 128) (h : IsMark c.toLower) :
    c.toLower = c := by
  have mark : c.toLower.isAlpha = false → c.toLower = c :=
    forall_ascii (P := fun c => c.toLower.isAlpha = false → c.toLower = c) (by decide) hc
  exact mark h.2

theorem eq_of_isMark_toUpper {c : Char} (hc : c.toNat < 128) (h : IsMark c.toUpper) :
    c.toUpper = c := by
  have mark : c.toUpper.isAlpha = false → c.toUpper = c :=
    forall_ascii (P := fun c => c.toUpper.isAlpha = false → c.toUpper = c) (by decide) hc
  exact mark h.2

theorem mem_expand {x c : Char} {expansions : List (Nat × List Nat)} {shifts : List Shift}
    (he : ∀ e ∈ expansions, ∀ n ∈ e.2, avoidsMark n = true)
    (hs : ∀ s ∈ shifts, s.avoidsMarks = true) (hx : IsMark x)
    (h : x ∈ match expansions.lookup c.toNat with
      | some cs => cs.map Char.ofNat
      | none => match shifts.findSome? (fun s : Shift => s.image? c.toNat) with
        | some n => [Char.ofNat n]
        | none => [c]) : x = c := by
  split at h
  · rename_i cs hcs
    obtain ⟨n, hn, rfl⟩ := List.mem_map.mp h
    obtain ⟨before, after, rfl, -⟩ := List.lookup_eq_some_iff.mp hcs
    exact absurd hx (not_isMark_of_avoidsMark (he (c.toNat, cs) (by simp) n hn))
  · split at h
    · rename_i n hn
      obtain ⟨s, hmem, himage⟩ := List.exists_of_findSome?_eq_some hn
      obtain rfl := List.mem_singleton.mp h
      exact absurd hx (not_isMark_of_avoidsMark (Shift.avoidsMark_image (hs s hmem) himage))
    · exact List.mem_singleton.mp h

theorem eq_of_mem_lowerMapping {x c : Char} (hx : IsMark x) (h : x ∈ lowerMapping c) : x = c := by
  unfold lowerMapping at h
  split at h
  · rename_i hc
    obtain rfl := List.mem_singleton.mp h
    exact eq_of_isMark_toLower hc hx
  · exact mem_expand lowerExpansions_avoidMarks lowerShifts_avoidMarks hx h

theorem eq_of_mem_upperMapping {x c : Char} (hx : IsMark x) (h : x ∈ upperMapping c) : x = c := by
  unfold upperMapping at h
  split at h
  · rename_i hc
    obtain rfl := List.mem_singleton.mp h
    exact eq_of_isMark_toUpper hc hx
  · exact mem_expand upperExpansions_avoidMarks upperShifts_avoidMarks hx h

end Unicode

namespace Text

open Unicode

variable {x : Char}

theorem ne_of_isMark (hx : IsMark x) {c : Char} (hc : 128 ≤ c.toNat) : x ≠ c := by
  rintro rfl
  exact absurd hx.1 (by omega)

theorem mem_of_mem_lowerAfter (hx : IsMark x) {before s : List Char}
    (h : x ∈ lowerAfter before s) : x ∈ s := by
  induction s generalizing before with
  | nil => exact h
  | cons c s ih =>
    rw [lowerAfter, List.mem_append] at h
    rcases h with h | h
    · split at h
      · rename_i hc
        rw [List.mem_singleton] at h
        split at h
        · exact absurd h (ne_of_isMark hx (by decide))
        · exact absurd h (ne_of_isMark hx (by decide))
      · rw [eq_of_mem_lowerMapping hx h]
        exact List.mem_cons_self
    · exact List.mem_cons_of_mem c (ih h)

theorem mem_of_mem_lower (hx : IsMark x) {s : List Char} (h : x ∈ lower s) : x ∈ s :=
  mem_of_mem_lowerAfter hx h

theorem mem_of_mem_upper (hx : IsMark x) {s : List Char} (h : x ∈ upper s) : x ∈ s := by
  obtain ⟨c, hc, h⟩ := List.mem_flatMap.mp h
  rwa [eq_of_mem_upperMapping hx h]

theorem flatten_joinFirst (c : Char) (ws : List (List Char)) :
    (joinFirst c ws).flatten = c :: ws.flatten := by
  cases ws <;> rfl

theorem flatten_humps (t : Tone) (s : List Char) : (humps t s).flatten = s := by
  fun_induction humps t s with
  | case1 => rfl
  | case2 => rfl
  | case3 t c d rest h ih => simp [ih]
  | case4 t c d rest h h' ih => simp [flatten_joinFirst, ih]
  | case5 t c d rest h h' ih => rw [flatten_joinFirst, ih]

theorem mem_of_mem_words {s w : List Char} (hw : w ∈ words s) (h : x ∈ w) : x ∈ s := by
  obtain ⟨run, hrun, hw⟩ := List.mem_flatMap.mp hw
  have hx : x ∈ (humps .none run).flatten := List.mem_flatten.mpr ⟨w, hw, h⟩
  rw [flatten_humps] at hx
  exact mem_of_mem_splitOnP (List.mem_of_mem_filter hrun) hx

theorem mem_of_mem_lowerWord (hx : IsMark x) {w : List Char} (h : x ∈ lowerWord w) : x ∈ w := by
  fun_induction lowerWord w with
  | case1 => exact h
  | case2 => exact absurd (List.mem_singleton.mp h) (ne_of_isMark hx (by decide))
  | case3 c =>
    rw [eq_of_mem_lowerMapping hx h]
    exact List.mem_singleton_self c
  | case4 c d rest ih =>
    rcases List.mem_append.mp h with h | h
    · rw [eq_of_mem_lowerMapping hx h]
      exact List.mem_cons_self
    · exact List.mem_cons_of_mem c (ih h)

theorem mem_of_mem_capitalize (hx : IsMark x) {w : List Char} (h : x ∈ capitalize w) : x ∈ w := by
  cases w with
  | nil => exact h
  | cons c rest =>
    rcases List.mem_append.mp h with h | h
    · rw [eq_of_mem_upperMapping hx h]
      exact List.mem_cons_self
    · exact List.mem_cons_of_mem c (mem_of_mem_lowerWord hx h)

theorem exists_word_of_mem_lowerCamel (hx : IsMark x) {s : List Char} (h : x ∈ lowerCamel s) :
    ∃ w ∈ words s, x ∈ w := by
  unfold lowerCamel at h
  split at h
  · cases h
  · rename_i w ws hw
    rcases List.mem_append.mp h with h | h
    · exact ⟨w, hw ▸ List.mem_cons_self, mem_of_mem_lowerWord hx h⟩
    · obtain ⟨v, hv, h⟩ := List.mem_flatMap.mp h
      exact ⟨v, hw ▸ List.mem_cons_of_mem w hv, mem_of_mem_capitalize hx h⟩

theorem mem_of_mem_lowerCamel (hx : IsMark x) {s : List Char} (h : x ∈ lowerCamel s) : x ∈ s := by
  obtain ⟨w, hw, h⟩ := exists_word_of_mem_lowerCamel hx h
  exact mem_of_mem_words hw h

theorem mem_of_mem_upperCamel (hx : IsMark x) {s : List Char} (h : x ∈ upperCamel s) : x ∈ s := by
  obtain ⟨w, hw, h⟩ := List.mem_flatMap.mp h
  exact mem_of_mem_words hw (mem_of_mem_capitalize hx h)

end Text

end FlowSchema
