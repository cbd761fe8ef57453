import Mathlib.Data.List.Basic
import Mathlib.Data.List.DropRight

namespace FlowSchema

variable {α : Type} {p : α → Bool} {s t : List α}

theorem dropWhile_eq_iff : s.dropWhile p = t ↔ ∃ front, s = front ++ t ∧
    (∀ a ∈ front, p a = true) ∧ ∀ a, t.head? = some a → p a = false := by
  constructor
  · rintro rfl
    refine ⟨s.takeWhile p, List.takeWhile_append_dropWhile.symm, ?_, ?_⟩
    · exact fun a ha => List.mem_takeWhile_imp ha
    · intro a ha
      have head := List.head?_dropWhile_not p s
      rwa [ha] at head
  · rintro ⟨front, rfl, dropped, kept⟩
    rw [List.dropWhile_append_of_pos dropped]
    cases t with
    | nil => rfl
    | cons a t => rw [List.dropWhile_cons_of_neg (by simp [kept a rfl])]

theorem rdropWhile_eq_iff : s.rdropWhile p = t ↔ ∃ back, s = t ++ back ∧
    (∀ a ∈ back, p a = true) ∧ ∀ a, t.getLast? = some a → p a = false := by
  have turned : s.rdropWhile p = t ↔ s.reverse.dropWhile p = t.reverse := by
    rw [List.rdropWhile, List.reverse_eq_iff]
  rw [turned, dropWhile_eq_iff, List.reverse_surjective.exists, List.head?_reverse]
  simp only [← List.reverse_append, List.reverse_inj, List.mem_reverse]

theorem append_inj_of_split {s' t' : List α} (hs : ∀ a ∈ s, p a = true)
    (ht : ∀ a, t.head? = some a → p a = false) (hs' : ∀ a ∈ s', p a = true)
    (ht' : ∀ a, t'.head? = some a → p a = false) (h : s ++ t = s' ++ t') : s = s' ∧ t = t' := by
  have rear : (s ++ t).dropWhile p = t := dropWhile_eq_iff.mpr ⟨s, rfl, hs, ht⟩
  have rear' : (s ++ t).dropWhile p = t' := dropWhile_eq_iff.mpr ⟨s', h, hs', ht'⟩
  obtain rfl : t = t' := rear.symm.trans rear'
  exact ⟨List.append_cancel_right h, rfl⟩

theorem splitOnP_congr {q : α → Bool} (h : ∀ a ∈ s, p a = q a) : s.splitOnP p = s.splitOnP q := by
  induction s with
  | nil => rw [List.splitOnP_nil, List.splitOnP_nil]
  | cons a s ih =>
    obtain ⟨first, rest⟩ := List.forall_mem_cons.mp h
    rw [List.splitOnP_cons_eq_if_modifyHead, List.splitOnP_cons_eq_if_modifyHead, first, ih rest]

theorem not_of_mem_splitOnP (h : t ∈ s.splitOnP p) : ∀ a ∈ t, p a = false := by
  induction s generalizing t with
  | nil =>
    rw [List.splitOnP_nil, List.mem_singleton] at h
    simp [h]
  | cons b s ih =>
    rw [List.splitOnP_cons_eq_if_modifyHead] at h
    split at h
    · rcases List.mem_cons.mp h with rfl | h
      · simp
      · exact ih h
    · rename_i other
      obtain ⟨first, rest, split⟩ := List.exists_cons_of_ne_nil (List.splitOnP_ne_nil p s)
      rw [split] at h ih
      rcases List.mem_cons.mp h with rfl | h
      · exact List.forall_mem_cons.mpr ⟨by simpa using other, ih List.mem_cons_self⟩
      · exact ih (List.mem_cons_of_mem first h)

theorem mem_of_mem_splitOnP {a : α} (h : t ∈ s.splitOnP p) (ha : a ∈ t) : a ∈ s := by
  induction s generalizing t with
  | nil =>
    rw [List.splitOnP_nil, List.mem_singleton] at h
    rwa [h] at ha
  | cons b s ih =>
    rw [List.splitOnP_cons_eq_if_modifyHead] at h
    split at h
    · rcases List.mem_cons.mp h with rfl | h
      · cases ha
      · exact List.mem_cons_of_mem b (ih h ha)
    · obtain ⟨first, rest, split⟩ := List.exists_cons_of_ne_nil (List.splitOnP_ne_nil p s)
      rw [split] at h ih
      rcases List.mem_cons.mp h with rfl | h
      · rcases List.mem_cons.mp ha with rfl | ha
        · exact List.mem_cons_self
        · exact List.mem_cons_of_mem b (ih List.mem_cons_self ha)
      · exact List.mem_cons_of_mem b (ih (List.mem_cons_of_mem first h) ha)

theorem not_mem_of_mem_splitOn [BEq α] [LawfulBEq α] {a : α} (h : t ∈ s.splitOn a) : a ∉ t := by
  intro ha
  have other : (a == a) = false := not_of_mem_splitOnP h a ha
  simp at other

theorem splitOn_intercalate {c : Char} {parts : List String} (h : ∀ s ∈ parts, c ∉ s.toList)
    (ne : parts ≠ []) :
    ((String.singleton c).intercalate parts).toList.splitOn c = parts.map String.toList := by
  rw [String.toList_intercalate, String.toList_singleton]
  exact List.splitOn_intercalate c (by simpa using h) (by simpa using ne)

theorem intercalate_splitOn (c : Char) (s : String) :
    (String.singleton c).intercalate ((s.toList.splitOn c).map String.ofList) = s := by
  have parts : ((s.toList.splitOn c).map String.ofList).map String.toList = s.toList.splitOn c := by
    simp
  rw [← String.toList_inj, String.toList_intercalate, String.toList_singleton, parts]
  exact List.intercalate_splitOn c

end FlowSchema
