import FlowSchema.Options
import FlowSchema.Proofs.Outcome
import FlowSchema.Proofs.Splitting

namespace FlowSchema

namespace Options

open Unicode

structure IsTrimmed (s t : String) : Prop where
  around : ∃ front back, s.toList = front ++ (t.toList ++ back) ∧
    (∀ c ∈ front, isWhiteSpace c = true) ∧ ∀ c ∈ back, isWhiteSpace c = true
  first : ∀ c, t.toList.head? = some c → isWhiteSpace c = false
  last : ∀ c, t.toList.getLast? = some c → isWhiteSpace c = false

theorem trim_eq (s : List Char) :
    trim s = (s.dropWhile isWhiteSpace).rdropWhile isWhiteSpace := rfl

theorem isTrimmed_iff {s t : String} : IsTrimmed s t ↔ t = String.ofList (trim s.toList) := by
  have same : t = String.ofList (trim s.toList) ↔ trim s.toList = t.toList := by
    rw [← String.toList_inj, String.toList_ofList, eq_comm]
  rw [same, trim_eq]
  constructor
  · rintro ⟨⟨front, back, split, white, white'⟩, first, last⟩
    cases ht : t.toList with
    | nil =>
      have all : s.toList.dropWhile isWhiteSpace = [] := by
        rw [split, ht, List.nil_append, List.dropWhile_append_of_pos white]
        exact List.dropWhile_eq_nil_iff.mpr white'
      rw [all, List.rdropWhile_nil]
    | cons c rest =>
      have inner : s.toList.dropWhile isWhiteSpace = t.toList ++ back := by
        refine dropWhile_eq_iff.mpr ⟨front, split, white, fun a ha => first a ?_⟩
        rwa [ht] at ha ⊢
      rw [← ht, inner]
      exact rdropWhile_eq_iff.mpr ⟨back, rfl, white', last⟩
  · intro h
    obtain ⟨front, split, white, first⟩ :=
      dropWhile_eq_iff.mp (rfl : s.toList.dropWhile isWhiteSpace = _)
    obtain ⟨back, split', white', last⟩ := rdropWhile_eq_iff.mp h
    rw [split'] at split first
    refine ⟨⟨front, back, split, white, white'⟩, fun c hc => first c ?_, last⟩
    rw [List.head?_append, hc, Option.some_or]

def Separates (parameter : String) (texts : List String) : Prop :=
  ∃ parts trimmed : List String, parts ≠ [] ∧ (∀ s ∈ parts, ',' ∉ s.toList) ∧
    parameter = ",".intercalate parts ∧ List.Forall₂ IsTrimmed parts trimmed ∧
    texts = trimmed.filter (· ≠ "")

theorem pieces_eq (parameter : String) : pieces parameter =
    ((parameter.toList.splitOn ',').map fun s => String.ofList (trim s)).filter (· ≠ "") := by
  have trimmed : (fun s => String.ofList (trim s)) = String.ofList ∘ trim := rfl
  rw [pieces, trimmed, ← List.map_map]
  conv_rhs => rw [List.filter_map]
  congr 1
  refine List.filter_congr fun s _ => ?_
  simp

theorem pieces_append (p q : String) : pieces (p ++ "," ++ q) = pieces p ++ pieces q := by
  have split : (p ++ "," ++ q).toList = p.toList ++ ',' :: q.toList := by simp
  rw [pieces_eq, split, List.splitOn_append_cons_self, List.map_append, List.filter_append,
    ← pieces_eq, ← pieces_eq]

theorem separates_iff {parameter : String} {texts : List String} :
    Separates parameter texts ↔ texts = pieces parameter := by
  rw [pieces_eq]
  constructor
  · rintro ⟨parts, trimmed, ne, commaless, rfl, each, rfl⟩
    have split : (",".intercalate parts).toList.splitOn ',' = parts.map String.toList :=
      splitOn_intercalate commaless ne
    have results := map_eq_map_of_forall₂ each (g := id) fun s _ t h => isTrimmed_iff.mp h
    rw [split, List.map_map, ← List.map_id trimmed, results]
    rfl
  · rintro rfl
    refine ⟨(parameter.toList.splitOn ',').map String.ofList, _, ?_, ?_, ?_, ?_, rfl⟩
    · simp
    · intro s hs
      obtain ⟨part, hpart, rfl⟩ := List.mem_map.mp hs
      rw [String.toList_ofList]
      exact not_mem_of_mem_splitOn hpart
    · exact (intercalate_splitOn ',' parameter).symm
    · rw [List.forall₂_map_left_iff, List.forall₂_map_right_iff, List.forall₂_same]
      exact fun part _ => isTrimmed_iff.mpr (by rw [String.toList_ofList])

end Options

end FlowSchema
