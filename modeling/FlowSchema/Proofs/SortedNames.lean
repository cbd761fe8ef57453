import FlowSchema.QualifiedName
import Mathlib.Data.List.Sort
import Mathlib.Data.String.Basic

namespace FlowSchema.QualifiedName

def Below (n m : QualifiedName) : Prop := n.text < m.text

instance : Std.Irrefl Below := ⟨fun n => lt_irrefl n.text⟩

instance : Std.Asymm Below := ⟨fun _ _ h => lt_asymm h⟩

theorem below_of_not_lt {n m : QualifiedName} (less : ¬n.text < m.text) (ne : n ≠ m) :
    m.Below n := by
  refine lt_of_le_of_ne (not_lt.mp less) fun text => ne ?_
  cases n
  cases m
  exact congrArg mk text.symm

theorem mem_insertSorted {n m : QualifiedName} {ms : List QualifiedName} :
    n ∈ insertSorted m ms ↔ n = m ∨ n ∈ ms := by
  induction ms with
  | nil => simp [insertSorted]
  | cons k ms ih =>
    rw [insertSorted]
    split
    · exact List.mem_cons
    · split
      · next same => simp [same]
      · rw [List.mem_cons, ih, List.mem_cons, or_left_comm]

theorem pairwise_insertSorted {n : QualifiedName} {ms : List QualifiedName}
    (h : ms.Pairwise Below) : (insertSorted n ms).Pairwise Below := by
  induction ms with
  | nil => exact List.pairwise_singleton Below n
  | cons m ms ih =>
    obtain ⟨first, rest⟩ := List.pairwise_cons.mp h
    rw [insertSorted]
    split
    · next less =>
      have above : ∀ k ∈ m :: ms, n.Below k :=
        List.forall_mem_cons.mpr ⟨less, fun k hk => lt_trans less (first k hk)⟩
      exact List.pairwise_cons.mpr ⟨above, h⟩
    · next less =>
      split
      · exact h
      · next ne =>
        refine List.pairwise_cons.mpr ⟨fun k hk => ?_, ih rest⟩
        rcases mem_insertSorted.mp hk with rfl | hk
        · exact below_of_not_lt less ne
        · exact first k hk

theorem mem_sorted {n : QualifiedName} {ns : List QualifiedName} : n ∈ sorted ns ↔ n ∈ ns := by
  induction ns with
  | nil => rfl
  | cons m ns ih =>
    rw [sorted, List.foldr_cons, mem_insertSorted, List.mem_cons]
    exact or_congr_right ih

theorem pairwise_sorted (ns : List QualifiedName) : (sorted ns).Pairwise Below := by
  induction ns with
  | nil => exact List.Pairwise.nil
  | cons n ns ih => exact pairwise_insertSorted ih

theorem sorted_eq_iff {ns ms : List QualifiedName} : sorted ns = sorted ms ↔ ∀ n, n ∈ ns ↔ n ∈ ms := by
  constructor
  · intro h n
    rw [← mem_sorted, h, mem_sorted]
  · intro h
    refine (pairwise_sorted ns).eq_of_mem_iff (pairwise_sorted ms) fun n => ?_
    rw [mem_sorted, mem_sorted, h n]

end FlowSchema.QualifiedName
