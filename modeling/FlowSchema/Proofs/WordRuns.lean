import FlowSchema.Proofs.Splitting

namespace FlowSchema.Text

def IsGap (s : List Char) : Prop := ∀ c ∈ s, c.isAlphanum = false

instance (s : List Char) : Decidable (IsGap s) := List.decidableBAll _ s

/-- The runs of letters and digits in a text, in order. Each of them goes on until the text ends or
a separator comes. -/
inductive Runs : List Char → List (List Char) → Prop
  | none {gap : List Char} (separators : IsGap gap) : Runs gap []
  | run {gap w rest : List Char} {ws : List (List Char)} (separators : IsGap gap)
      (nonempty : w ≠ []) (word : ∀ c ∈ w, c.isAlphanum = true)
      (maximal : ∀ c, rest.head? = some c → c.isAlphanum = false) (others : Runs rest ws) :
      Runs (gap ++ (w ++ rest)) (w :: ws)

def runs (s : List Char) : List (List Char) := (s.splitOnP (!·.isAlphanum)).filter (· ≠ [])

@[simp] theorem runs_nil : runs [] = [] := rfl

section

variable {c : Char} {s t gap w rest : List Char} {ws : List (List Char)}

theorem runs_append_separator (h : c.isAlphanum = false) :
    runs (s ++ c :: t) = runs s ++ runs t := by
  rw [runs, List.splitOnP_append_cons s t (by simp [h]), List.filter_append]
  rfl

theorem runs_separator (h : c.isAlphanum = false) : runs (c :: s) = runs s :=
  runs_append_separator (s := []) h

theorem runs_gap_append (h : IsGap gap) : runs (gap ++ s) = runs s := by
  induction gap with
  | nil => rfl
  | cons c gap ih =>
    obtain ⟨first, rest⟩ := List.forall_mem_cons.mp h
    rw [List.cons_append, runs_separator first, ih rest]

theorem runs_gap (h : IsGap gap) : runs gap = [] := by
  have front := runs_gap_append (s := []) h
  rwa [List.append_nil] at front

theorem runs_append_gap_append (h : IsGap gap) (ne : gap ≠ []) :
    runs (s ++ gap ++ t) = runs s ++ runs t := by
  obtain ⟨c, gap, rfl⟩ := List.exists_cons_of_ne_nil ne
  obtain ⟨first, rest⟩ := List.forall_mem_cons.mp h
  rw [List.append_assoc, List.cons_append, runs_append_separator first, runs_gap_append rest]

theorem runs_append_gap (h : IsGap gap) : runs (s ++ gap) = runs s := by
  cases gap with
  | nil => rw [List.append_nil]
  | cons c gap =>
    have last := runs_append_gap_append (s := s) (t := []) h (List.cons_ne_nil c gap)
    rwa [List.append_nil, runs_nil, List.append_nil] at last

theorem runs_word (ne : w ≠ []) (word : ∀ c ∈ w, c.isAlphanum = true) : runs w = [w] := by
  rw [runs, List.splitOnP_eq_singleton fun c hc => by simp [word c hc]]
  simp [ne]

theorem runs_word_append (ne : w ≠ []) (word : ∀ c ∈ w, c.isAlphanum = true)
    (maximal : ∀ c, rest.head? = some c → c.isAlphanum = false) :
    runs (w ++ rest) = w :: runs rest := by
  cases rest with
  | nil =>
    rw [List.append_nil, runs_word ne word]
    rfl
  | cons c rest =>
    have separator := maximal c rfl
    rw [runs_append_separator separator, runs_word ne word, runs_separator separator]
    rfl

theorem runs_eq_of_runs (h : Runs s ws) : runs s = ws := by
  induction h with
  | none separators => exact runs_gap separators
  | run separators nonempty word maximal others ih =>
    rw [runs_gap_append separators, runs_word_append nonempty word maximal, ih]

theorem exists_runs (s : List Char) : ∃ ws, Runs s ws := by
  induction s with
  | nil => exact ⟨[], .none (by simp [IsGap])⟩
  | cons c s ih =>
    obtain ⟨ws, h⟩ := ih
    cases hc : c.isAlphanum with
    | false =>
      have widen {gap : List Char} (separators : IsGap gap) : IsGap (c :: gap) :=
        List.forall_mem_cons.mpr ⟨hc, separators⟩
      cases h with
      | none separators => exact ⟨[], .none (widen separators)⟩
      | run separators nonempty word maximal others =>
        exact ⟨_, .run (widen separators) nonempty word maximal others⟩
    | true =>
      have empty : IsGap [] := by simp [IsGap]
      have alone : ∀ d ∈ [c], d.isAlphanum = true := by simpa using hc
      cases h with
      | none separators =>
        exact ⟨_, .run empty (List.cons_ne_nil c []) alone
          (fun d hd => separators d (List.mem_of_mem_head? hd)) (.none separators)⟩
      | @run gap w rest ws separators nonempty word maximal others =>
        cases gap with
        | nil =>
          -- the new character joins the run that follows it
          exact ⟨_, .run empty (List.cons_ne_nil c w) (List.forall_mem_cons.mpr ⟨hc, word⟩)
            maximal others⟩
        | cons d gap =>
          have next : ∀ e, (d :: gap ++ (w ++ rest)).head? = some e → e.isAlphanum = false := by
            rintro e ⟨⟩
            exact separators d List.mem_cons_self
          exact ⟨_, .run empty (List.cons_ne_nil c []) alone next
            (.run separators nonempty word maximal others)⟩

theorem runs_iff : Runs s ws ↔ runs s = ws := by
  constructor
  · exact runs_eq_of_runs
  · rintro rfl
    obtain ⟨ws, h⟩ := exists_runs s
    rwa [runs_eq_of_runs h]

theorem Runs.map {f : Char → Char} (hf : ∀ c, (f c).isAlphanum = c.isAlphanum) (h : Runs s ws) :
    Runs (s.map f) (ws.map (List.map f)) := by
  have gap {s : List Char} (separators : IsGap s) : IsGap (s.map f) := by
    intro d hd
    obtain ⟨c, hc, rfl⟩ := List.mem_map.mp hd
    rw [hf, separators c hc]
  induction h with
  | none separators => exact .none (gap separators)
  | @run before w rest ws separators nonempty word maximal others ih =>
    rw [List.map_append, List.map_append]
    refine .run (gap separators) (by simpa using nonempty) ?_ ?_ ih
    · intro d hd
      obtain ⟨c, hc, rfl⟩ := List.mem_map.mp hd
      rw [hf, word c hc]
    · intro d hd
      rw [List.head?_map, Option.map_eq_some_iff] at hd
      obtain ⟨c, hc, rfl⟩ := hd
      rw [hf, maximal c hc]

theorem runs_map {f : Char → Char} (hf : ∀ c, (f c).isAlphanum = c.isAlphanum) (s : List Char) :
    runs (s.map f) = (runs s).map (List.map f) :=
  runs_eq_of_runs ((runs_iff.mpr rfl).map hf)

theorem mem_of_mem_runs (hw : w ∈ runs s) (h : c ∈ w) : c ∈ s :=
  mem_of_mem_splitOnP (List.mem_of_mem_filter hw) h

theorem isAlphanum_of_mem_runs (hw : w ∈ runs s) (h : c ∈ w) : c.isAlphanum = true := by
  have word := not_of_mem_splitOnP (List.mem_of_mem_filter hw) c h
  rwa [Bool.not_eq_false'] at word

theorem find?_of_runs (h : Runs s ws) : s.find? Char.isAlphanum = ws.head?.bind List.head? := by
  have skip {gap : List Char} (separators : IsGap gap) : gap.find? Char.isAlphanum = none := by
    rw [List.find?_eq_none]
    exact fun c hc => by simp [separators c hc]
  cases h with
  | none separators => exact skip separators
  | @run gap w rest ws separators nonempty word maximal others =>
    obtain ⟨c, w, rfl⟩ := List.exists_cons_of_ne_nil nonempty
    rw [List.find?_append, skip separators, List.cons_append,
      List.find?_cons_of_pos (word c List.mem_cons_self)]
    rfl

theorem ne_nil_of_mem_runs (h : w ∈ runs s) : w ≠ [] := by
  simpa using (List.mem_filter.mp h).2

end

end FlowSchema.Text
