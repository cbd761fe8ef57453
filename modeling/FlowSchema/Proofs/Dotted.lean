import FlowSchema.QualifiedName
import Mathlib.Data.List.Basic

namespace FlowSchema

def IsSegment (s : String) : Prop := s ≠ "" ∧ '.' ∉ s.toList

instance (s : String) : Decidable (IsSegment s) := inferInstanceAs (Decidable (_ ∧ _))

def IsPackage (package : String) : Prop :=
  ∃ segments : List String, (∀ s ∈ segments, IsSegment s) ∧ package = ".".intercalate segments

namespace QualifiedName

theorem eq_of_text {n m : QualifiedName} (h : n.text = m.text) : n = m := by
  cases n
  exact congrArg QualifiedName.mk h

theorem trimDots_eq_self {s : List Char} (first : s.head? ≠ some '.')
    (last : s.getLast? ≠ some '.') : trimDots s = s := by
  have drop {t : List Char} (ht : t.head? ≠ some '.') : t.dropWhile isDot = t := by
    cases t with
    | nil => rfl
    | cons c t =>
      have hc : c ≠ '.' := by simpa using ht
      rw [List.dropWhile_cons_of_neg (by simpa [isDot] using hc)]
  rw [trimDots, drop first, drop (by rwa [List.head?_reverse]), List.reverse_reverse]

theorem ofPackage_text {package : String} (first : package.toList.head? ≠ some '.')
    (last : package.toList.getLast? ≠ some '.') :
    (ofPackage package).text = (if package = "" then "" else ".") ++ package := by
  simp [ofPackage, ofParts, trimDots_eq_self first last]

end QualifiedName

namespace IsPackage

open QualifiedName

variable {package : String} (h : IsPackage package)
include h

theorem head_ne_dot : package.toList.head? ≠ some '.' := by
  obtain ⟨segments, hs, rfl⟩ := h
  cases segments with
  | nil => simp
  | cons s rest =>
    obtain ⟨ne, dotless⟩ := hs s List.mem_cons_self
    have hne : s.toList ≠ [] := by simpa using ne
    have front : ∃ t, (".".intercalate (s :: rest)).toList = s.toList ++ t := by
      cases rest with
      | nil => exact ⟨[], by simp⟩
      | cons t rest =>
        refine ⟨('.' :: (".".intercalate (t :: rest)).toList), ?_⟩
        rw [String.intercalate_cons_cons, String.toList_append, String.toList_append,
          List.append_assoc]
        rfl
    obtain ⟨t, ht⟩ := front
    rw [ht, List.head?_append_of_ne_nil _ hne]
    exact fun hd => dotless (List.mem_of_head? hd)

theorem getLast_ne_dot : package.toList.getLast? ≠ some '.' := by
  obtain ⟨segments, hs, rfl⟩ := h
  rcases segments.eq_nil_or_concat with rfl | ⟨rest, s, rfl⟩
  · simp
  · obtain ⟨ne, dotless⟩ := hs s (by simp)
    have hne : s.toList ≠ [] := by simpa using ne
    have back : ∃ t, (".".intercalate (rest ++ [s])).toList = t ++ s.toList := by
      by_cases hr : rest = []
      · exact ⟨[], by simp [hr]⟩
      · refine ⟨(".".intercalate rest ++ ".").toList, ?_⟩
        rw [String.intercalate_append_of_ne_nil hr (by simp), String.intercalate_singleton,
          String.toList_append]
    obtain ⟨t, ht⟩ := back
    rw [List.concat_eq_append] at *
    rw [ht, List.getLast?_append_of_ne_nil _ hne]
    exact fun hd => dotless (List.mem_of_getLast? hd)

end IsPackage

namespace QualifiedName

def under (scope : QualifiedName) (path : List String) : QualifiedName := path.foldl join scope

theorem under_concat (scope : QualifiedName) (path : List String) (name : String) :
    scope.under (path ++ [name]) = (scope.under path).join name := by
  rw [under, List.foldl_append]
  rfl

theorem under_text (scope : QualifiedName) {path : List String} (h : path ≠ []) :
    (scope.under path).text = scope.text ++ "." ++ ".".intercalate path := by
  induction path generalizing scope with
  | nil => exact absurd rfl h
  | cons s path ih =>
    cases path with
    | nil => rfl
    | cons t path =>
      have step := ih (scope.join s) (by simp)
      rw [under, List.foldl_cons]
      rw [under] at step
      rw [step, join, String.intercalate_cons_cons]
      simp only [String.append_assoc]

theorem flatten_dots {path : List String} (h : ∀ s ∈ path, '.' ∉ s.toList) :
    (".".intercalate path).toList.map (fun c => if c = '.' then '_' else c) =
      ("_".intercalate path).toList := by
  induction path with
  | nil => simp
  | cons s path ih =>
    have hs : s.toList.map (fun c => if c = '.' then '_' else c) = s.toList := by
      refine (List.map_congr_left fun c hc => if_neg ?_).trans (List.map_id' _)
      rintro rfl
      exact h s List.mem_cons_self hc
    have hpath := ih fun t ht => h t (List.mem_cons_of_mem s ht)
    cases path with
    | nil => simpa using hs
    | cons t path =>
      rw [String.intercalate_cons_cons, String.intercalate_cons_cons]
      simp only [String.toList_append, List.map_append, hs, hpath]
      rfl

theorem bare_toList {n : QualifiedName} {rest : List Char} (h : n.text.toList = '.' :: rest) :
    n.bare.toList = rest := by
  rw [bare, h]
  exact String.toList_ofList

def Rooted (n : QualifiedName) : Prop := ∃ c rest, n.text.toList = '.' :: c :: rest ∧ c ≠ '.'

theorem Rooted.join {n : QualifiedName} (h : n.Rooted) (part : String) : (n.join part).Rooted := by
  obtain ⟨c, rest, text, first⟩ := h
  refine ⟨c, rest ++ ('.' :: part.toList), ?_, first⟩
  simp [QualifiedName.join, text]

theorem Rooted.under {n : QualifiedName} (h : n.Rooted) (path : List String) :
    (n.under path).Rooted := by
  induction path generalizing n with
  | nil => exact h
  | cons s path ih => exact ih (h.join s)

theorem ofTypeName_text (s : String) :
    (ofTypeName s).text = "." ++ String.ofList (s.toList.dropWhile isDot) := by
  simp [ofTypeName, ofParts, trimDots]

theorem ofTypeName_of_rooted {n : QualifiedName} (h : n.Rooted) : ofTypeName n.text = n := by
  obtain ⟨c, rest, text, first⟩ := h
  have bare : n.text.toList.dropWhile isDot = c :: rest := by
    rw [text, List.dropWhile_cons_of_pos (by decide),
      List.dropWhile_cons_of_neg (by simpa [isDot] using first)]
  apply eq_of_text
  apply String.toList_inj.mp
  rw [ofTypeName_text, bare, text]
  simp

theorem rooted_under {package : String} (first : package.toList.head? ≠ some '.')
    (last : package.toList.getLast? ≠ some '.') {path : List String} (h : path ≠ [])
    (segments : ∀ s ∈ path, IsSegment s) : ((ofPackage package).under path).Rooted := by
  have starts {n : QualifiedName} {s : String} (text : n.text = "." ++ s) (ne : s ≠ "")
      (head : s.toList.head? ≠ some '.') : n.Rooted := by
    obtain ⟨c, rest, hs⟩ := List.exists_cons_of_ne_nil (by simpa using ne : s.toList ≠ [])
    refine ⟨c, rest, ?_, ?_⟩
    · rw [text, String.toList_append, hs]
      rfl
    · rintro rfl
      rw [hs] at head
      exact head rfl
  by_cases he : package = ""
  · cases path with
    | nil => exact absurd rfl h
    | cons s path =>
      obtain ⟨ne, dotless⟩ := segments s List.mem_cons_self
      have top : ((ofPackage package).join s).Rooted := by
        apply starts (s := s) _ ne
        · intro head
          exact dotless (List.mem_of_head? head)
        · rw [QualifiedName.join, ofPackage_text first last, he]
          rfl
      exact top.under path
  · have top : (ofPackage package).Rooted := by
      apply starts (s := package) _ he first
      rw [ofPackage_text first last, if_neg he]
    exact top.under path

theorem within_under_of_ends {package : String} (first : package.toList.head? ≠ some '.')
    (last : package.toList.getLast? ≠ some '.') {path : List String} (h : path ≠ [])
    (dotless : ∀ s ∈ path, '.' ∉ s.toList) :
    ((ofPackage package).under path).within package = "_".intercalate path := by
  have text := under_text (ofPackage package) h
  rw [ofPackage_text first last] at text
  rw [within, trimDots_eq_self first last]
  by_cases he : package = ""
  · have hb : ((ofPackage package).under path).bare.toList = (".".intercalate path).toList := by
      apply bare_toList
      rw [text, he]
      simp
    have nil : package.toList = [] := by simpa using he
    rw [nil, hb, flatten_dots dotless, String.ofList_toList]
  · have hb : ((ofPackage package).under path).bare.toList =
        package.toList ++ ['.'] ++ (".".intercalate path).toList := by
      apply bare_toList
      rw [text, if_neg he]
      simp
    have stripped : (package.toList ++ ['.']).isPrefixOf?
        ((ofPackage package).under path).bare.toList = some (".".intercalate path).toList := by
      rw [List.isPrefixOf?_eq_some_iff_append_eq, hb]
    split
    · rename_i nil
      exact absurd (by simpa using nil) he
    · rw [stripped, Option.getD_some, flatten_dots dotless, String.ofList_toList]

theorem within_under {package : String} (hp : IsPackage package) {path : List String}
    (h : path ≠ []) (dotless : ∀ s ∈ path, '.' ∉ s.toList) :
    ((ofPackage package).under path).within package = "_".intercalate path :=
  within_under_of_ends hp.head_ne_dot hp.getLast_ne_dot h dotless

end QualifiedName

end FlowSchema
