import Mathlib.Data.List.Nodup
import Mathlib.Data.Prod.Lex

namespace FlowSchema

variable {α β γ κ : Type} {R : α → α → Prop} {S : κ → κ → Prop}

def placed (l : List β) : List (Nat × β) := l.zipIdx.map Prod.swap

theorem map_fst_placed (l : List β) : (placed l).map Prod.fst = List.range l.length := by
  rw [placed, List.map_map, List.range_eq_range', ← List.zipIdx_map_snd]
  rfl

theorem map_snd_placed (l : List β) : (placed l).map Prod.snd = l := by
  rw [placed, List.map_map]
  exact List.zipIdx_map_fst 0 l

theorem sorted_placed (l : List β) : (placed l).Pairwise (fun x y => x.1 < y.1) := by
  have sorted : ((placed l).map Prod.fst).Pairwise (· < ·) := by
    rw [map_fst_placed]
    exact List.pairwise_lt_range
  exact List.pairwise_map.mp sorted

theorem mem_placed {l : List β} {i : Nat} {b : β} : (i, b) ∈ placed l ↔ l[i]? = some b := by
  rw [placed, List.mem_map]
  constructor
  · rintro ⟨⟨c, j⟩, h, heq⟩
    cases heq
    exact List.mem_zipIdx_iff_getElem?.mp h
  · exact fun h => ⟨(b, i), List.mem_zipIdx_iff_getElem?.mpr h, rfl⟩

/-- The list holds what stands at each place, in the order of the places. -/
def Enumerates (R : α → α → Prop) (at? : α → Option β) (l : List β) : Prop :=
  ∃ graph : List (α × β), graph.Pairwise (fun x y => R x.1 y.1) ∧
    (∀ p b, (p, b) ∈ graph ↔ at? p = some b) ∧ graph.map Prod.snd = l

namespace Enumerates

theorem list (l : List β) : Enumerates (· < ·) (fun i : Nat => l[i]?) l :=
  ⟨placed l, sorted_placed l, fun _ _ => mem_placed, map_snd_placed l⟩

variable {at? : α → Option β} {l : List β}

theorem mem_iff (h : Enumerates R at? l) {b : β} : b ∈ l ↔ ∃ p, at? p = some b := by
  obtain ⟨graph, -, complete, rfl⟩ := h
  rw [List.mem_map]
  constructor
  · rintro ⟨⟨p, c⟩, hp, rfl⟩
    exact ⟨p, (complete p c).mp hp⟩
  · rintro ⟨p, hp⟩
    exact ⟨(p, b), (complete p b).mpr hp, rfl⟩

theorem congr (h : Enumerates R at? l) {at'? : α → Option β} (same : ∀ p, at'? p = at? p) :
    Enumerates R at'? l := by
  rwa [funext same]

theorem map (h : Enumerates R at? l) (g : β → γ) :
    Enumerates R (fun p => (at? p).map g) (l.map g) := by
  obtain ⟨graph, sorted, complete, rfl⟩ := h
  refine ⟨graph.map (Prod.map id g), ?_, ?_, ?_⟩
  · rw [List.pairwise_map]
    exact sorted
  · intro p c
    rw [List.mem_map, Option.map_eq_some_iff]
    constructor
    · rintro ⟨⟨q, b⟩, hq, heq⟩
      cases heq
      exact ⟨b, (complete q b).mp hq, rfl⟩
    · rintro ⟨b, hb, rfl⟩
      exact ⟨(p, b), (complete p b).mpr hb, rfl⟩
  · simp

theorem flatMap {inner? : β → κ → Option γ} {g : β → List γ} (h : Enumerates R at? l)
    (hg : ∀ b ∈ l, Enumerates S (inner? b) (g b)) :
    Enumerates (Prod.Lex R S) (fun p => (at? p.1).bind (inner? · p.2)) (l.flatMap g) := by
  obtain ⟨graph, sorted, complete, rfl⟩ := h
  have parts : ∀ x : α × β, ∃ part : List (κ × γ), x ∈ graph →
      part.Pairwise (fun y z => S y.1 z.1) ∧ (∀ q c, (q, c) ∈ part ↔ inner? x.2 q = some c) ∧
        part.map Prod.snd = g x.2 := by
    intro x
    by_cases hx : x ∈ graph
    · obtain ⟨part, hpart⟩ := hg x.2 (List.mem_map_of_mem hx)
      exact ⟨part, fun _ => hpart⟩
    · exact ⟨[], fun h => absurd h hx⟩
  choose part hpart using parts
  refine ⟨graph.flatMap fun x => (part x).map fun y => ((x.1, y.1), y.2), ?_, ?_, ?_⟩
  · rw [List.pairwise_flatMap]
    constructor
    · intro x hx
      rw [List.pairwise_map]
      exact (hpart x hx).1.imp fun h => .right x.1 h
    · refine sorted.imp fun h y hy z hz => ?_
      obtain ⟨y, -, rfl⟩ := List.mem_map.mp hy
      obtain ⟨z, -, rfl⟩ := List.mem_map.mp hz
      exact .left y.1 z.1 h
  · rintro ⟨p, q⟩ c
    rw [List.mem_flatMap, Option.bind_eq_some_iff]
    constructor
    · rintro ⟨⟨p, b⟩, hx, hy⟩
      obtain ⟨⟨q, c⟩, hpair, heq⟩ := List.mem_map.mp hy
      cases heq
      exact ⟨b, (complete p b).mp hx, ((hpart (p, b) hx).2.1 q c).mp hpair⟩
    · rintro ⟨b, hb, hc⟩
      have hx := (complete p b).mpr hb
      have hy := ((hpart (p, b) hx).2.1 q c).mpr hc
      exact ⟨(p, b), hx, List.mem_map.mpr ⟨(q, c), hy, rfl⟩⟩
  · rw [List.map_flatMap, List.flatMap_map]
    refine List.flatMap_congr fun x hx => ?_
    rw [List.map_map, ← (hpart x hx).2.2]
    rfl

end Enumerates

section

variable [BEq κ] [LawfulBEq κ] {l : List (κ × γ)} {k : κ} {c : γ}

theorem lookup_reverse_eq_some : l.reverse.lookup k = some c ↔
    ∃ before after, l = before ++ (k, c) :: after ∧ ∀ x ∈ after, x.1 ≠ k := by
  rw [List.lookup_eq_some_iff]
  simp only [bne_iff_ne, List.reverse_eq_append_iff, List.reverse_cons, List.append_assoc,
    List.singleton_append]
  constructor
  · rintro ⟨after, before, rfl, other⟩
    refine ⟨before.reverse, after.reverse, rfl, fun x hx => ?_⟩
    exact (other x (List.mem_reverse.mp hx)).symm
  · rintro ⟨before, after, rfl, other⟩
    refine ⟨after.reverse, before.reverse, by simp, fun x hx => ?_⟩
    exact (other x (List.mem_reverse.mp hx)).symm

theorem Enumerates.lookup_eq_some {at? : α → Option (κ × γ)} (h : Enumerates R at? l)
    (asymm : ∀ p q, R p q → ¬R q p) : l.reverse.lookup k = some c ↔
      ∃ p, at? p = some (k, c) ∧ ∀ q d, at? q = some (k, d) → q = p ∨ R q p := by
  obtain ⟨graph, sorted, complete, rfl⟩ := h
  rw [lookup_reverse_eq_some]
  constructor
  · rintro ⟨before, after, split, other⟩
    obtain ⟨early, rest, rfl, rfl, hrest⟩ := List.map_eq_append_iff.mp split
    obtain ⟨⟨p, b⟩, late, rfl, rfl, rfl⟩ := List.map_eq_cons_iff.mp hrest
    refine ⟨p, (complete _ _).mp (by simp), fun q d hq => ?_⟩
    rcases List.mem_append.mp ((complete _ _).mpr hq) with hq | hq
    · exact .inr ((List.pairwise_append.mp sorted).2.2 _ hq _ List.mem_cons_self)
    · rcases List.mem_cons.mp hq with heq | hq
      · cases heq
        exact .inl rfl
      · exact absurd rfl (other (k, d) (List.mem_map_of_mem hq))
  · rintro ⟨p, hp, last⟩
    obtain ⟨early, late, rfl⟩ := List.append_of_mem ((complete _ _).mpr hp)
    refine ⟨early.map Prod.snd, late.map Prod.snd, by simp, ?_⟩
    rintro x hx rfl
    obtain ⟨⟨q, d⟩, hq, rfl⟩ := List.mem_map.mp hx
    have later : R p q := by
      have rest := (List.pairwise_append.mp sorted).2.1
      exact (List.pairwise_cons.mp rest).1 _ hq
    have found : at? q = some (d.1, d.2) := (complete _ _).mp (by simp [hq])
    rcases last q d.2 found with rfl | earlier
    · exact asymm _ _ later later
    · exact asymm _ _ later earlier

theorem Enumerates.lookup_isSome {at? : α → Option (κ × γ)} (h : Enumerates R at? l) :
    (l.reverse.lookup k).isSome ↔ ∃ p c, at? p = some (k, c) := by
  have keys : (l.reverse.lookup k).isSome ↔ ∃ c, (k, c) ∈ l := by
    simp [List.lookup_isSome_iff]
  rw [keys, exists_comm]
  exact exists_congr fun c => h.mem_iff

end

end FlowSchema
