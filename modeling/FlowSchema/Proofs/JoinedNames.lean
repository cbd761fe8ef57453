import FlowSchema.Proofs.Dotted
import FlowSchema.Proofs.Splitting

namespace FlowSchema.QualifiedName

theorem trimDots_ends (s : List Char) :
    (trimDots s).head? ≠ some '.' ∧ (trimDots s).getLast? ≠ some '.' := by
  have front : s.dropWhile isDot = s.dropWhile isDot := rfl
  have back : (s.dropWhile isDot).rdropWhile isDot = trimDots s := rfl
  obtain ⟨-, -, -, first⟩ := dropWhile_eq_iff.mp front
  obtain ⟨rest, split, -, last⟩ := rdropWhile_eq_iff.mp back
  constructor
  · intro head
    have dotted := first '.' (by rw [split, List.head?_append, head, Option.some_or])
    cases dotted
  · intro final
    cases last '.' final

section

variable {package : String}

theorem ofPackage_toList (package : String) : (ofPackage package).text.toList =
    (if package = "" then [] else ['.']) ++ trimDots package.toList := by
  by_cases h : package = "" <;> simp [ofPackage, ofParts, h]

theorem within_trimDots (n : QualifiedName) (package : String) :
    n.within (String.ofList (trimDots package.toList)) = n.within package := by
  obtain ⟨first, last⟩ := trimDots_ends package.toList
  unfold within
  rw [String.toList_ofList, trimDots_eq_self first last]

theorem ofPackage_trimDots (h : package = "" ∨ trimDots package.toList ≠ []) :
    ofPackage (String.ofList (trimDots package.toList)) = ofPackage package := by
  obtain ⟨first, last⟩ := trimDots_ends package.toList
  have dot : (if String.ofList (trimDots package.toList) = "" then [] else ['.']) =
      if package = "" then [] else ['.'] := by
    rcases h with rfl | h
    · rfl
    · have ne : package ≠ "" := by
        rintro rfl
        exact h rfl
      rw [if_neg (by simpa using h), if_neg ne]
  apply eq_of_text
  apply String.toList_inj.mp
  rw [ofPackage_toList, ofPackage_toList, String.toList_ofList, trimDots_eq_self first last, dot]

theorem dropDots_segment {s : String} (h : IsSegment s) :
    String.ofList (s.toList.dropWhile isDot) = s := by
  obtain ⟨ne, dotless⟩ := h
  obtain ⟨c, rest, hs⟩ := List.exists_cons_of_ne_nil (by simpa using ne : s.toList ≠ [])
  have first : c ≠ '.' := by
    rintro rfl
    exact dotless (by simp [hs])
  rw [hs, List.dropWhile_cons_of_neg (by simpa [isDot] using first), ← hs, String.ofList_toList]

theorem under_eq_ofParts {path : List String} {name : String}
    (segments : ∀ s ∈ path ++ [name], IsSegment s) :
    (ofPackage package).under (path ++ [name]) = ofParts package path name := by
  obtain ⟨before, last⟩ := List.forall_mem_append.mp segments
  obtain ⟨ne, -⟩ := last name (List.mem_singleton_self name)
  have trimmed : path.map (fun s => String.ofList (s.toList.dropWhile isDot)) = path := by
    refine (List.map_congr_left fun s hs => ?_).trans (List.map_id' path)
    exact dropDots_segment (before s hs)
  have scope : (ofPackage package).text =
      (if package = "" then "" else ".") ++ String.ofList (trimDots package.toList) := by
    apply String.toList_inj.mp
    rw [ofPackage_toList]
    by_cases h : package = "" <;> simp [h]
  apply eq_of_text
  rw [under_text _ (by simp), scope, ofParts, trimmed, if_neg ne]
  by_cases h : path = []
  · simp [h]
  · rw [if_neg h, String.intercalate_append_of_ne_nil h (by simp), String.intercalate_singleton]
    simp only [String.append_assoc]

theorem rooted_of_package (h : package = "" ∨ trimDots package.toList ≠ []) {path : List String}
    (ne : path ≠ []) (segments : ∀ s ∈ path, IsSegment s) :
    ((ofPackage package).under path).Rooted := by
  obtain ⟨first, last⟩ := trimDots_ends package.toList
  rw [← ofPackage_trimDots h]
  apply rooted_under _ _ ne segments
  · rwa [String.toList_ofList]
  · rwa [String.toList_ofList]

theorem within_of_package (h : package = "" ∨ trimDots package.toList ≠ []) {path : List String}
    (ne : path ≠ []) (dotless : ∀ s ∈ path, '.' ∉ s.toList) :
    ((ofPackage package).under path).within package = "_".intercalate path := by
  obtain ⟨first, last⟩ := trimDots_ends package.toList
  rw [← ofPackage_trimDots h, ← within_trimDots]
  apply within_under_of_ends _ _ ne dotless
  · rwa [String.toList_ofList]
  · rwa [String.toList_ofList]

end

theorem Rooted.text_eq {n : QualifiedName} (h : n.Rooted) : n.text = "." ++ n.bare := by
  obtain ⟨c, rest, text, -⟩ := h
  apply String.toList_inj.mp
  rw [String.toList_append, bare_toList text, text]
  rfl

theorem ofTypeName_dots (k : Nat) (s : String) :
    ofTypeName (String.ofList (List.replicate k '.') ++ s) = ofTypeName s := by
  have dots : ∀ c ∈ List.replicate k '.', isDot c = true := by
    intro c hc
    rw [List.eq_of_mem_replicate hc]
    rfl
  apply eq_of_text
  rw [ofTypeName_text, ofTypeName_text, String.toList_append, String.toList_ofList,
    List.dropWhile_append_of_pos dots]

theorem ofTypeName_bare {n : QualifiedName} (h : n.Rooted) : ofTypeName n.bare = n := by
  have dot := ofTypeName_dots 1 n.bare
  have text : String.ofList (List.replicate 1 '.') ++ n.bare = n.text := h.text_eq.symm
  rw [← dot, text, ofTypeName_of_rooted h]

theorem ofParts_agree (package : String) (path : List String) (name : String)
    (h : package = "" ∨ trimDots package.toList ≠ [])
    (segments : ∀ s ∈ path ++ [name], IsSegment s) :
    (path ++ [name]).foldl join (ofParts package [] "") = ofParts package path name ∧
    (ofParts package path name).text = "." ++ (ofParts package path name).bare ∧
    ofTypeName (ofParts package path name).bare = ofParts package path name ∧
    (∀ k, ofTypeName (String.ofList (List.replicate k '.') ++ (ofParts package path name).text) =
      ofParts package path name) ∧
    (ofParts package path name).within package = "_".intercalate (path ++ [name]) := by
  have ne : path ++ [name] ≠ [] := by simp
  have rooted := rooted_of_package h ne segments
  have within := within_of_package h ne fun s hs => (segments s hs).2
  rw [under_eq_ofParts segments] at rooted within
  refine ⟨under_eq_ofParts segments, rooted.text_eq, ofTypeName_bare rooted, fun k => ?_, within⟩
  rw [ofTypeName_dots, ofTypeName_of_rooted rooted]

theorem ofParts_agree_shopLine :
    trimDots ".shop.".toList ≠ [] ∧ (∀ s ∈ ["shop", "Line"], IsSegment s) ∧
    ofParts ".shop." ["shop"] "Line" = ⟨".shop.shop.Line"⟩ ∧
    ["shop", "Line"].foldl join (ofParts ".shop." [] "") = ⟨".shop.shop.Line"⟩ ∧
    ofTypeName "shop.shop.Line" = ⟨".shop.shop.Line"⟩ ∧
    ofTypeName "...shop.shop.Line" = ⟨".shop.shop.Line"⟩ ∧
    (ofParts ".shop." ["shop"] "Line").within ".shop." = "shop_Line" := by
  have package : trimDots ".shop.".toList ≠ [] := by decide
  have segments : ∀ s ∈ ["shop", "Line"], IsSegment s := by decide
  have name : ofParts ".shop." ["shop"] "Line" = ⟨".shop.shop.Line"⟩ := by decide
  have dotless : (⟨".shop.shop.Line"⟩ : QualifiedName).bare = "shop.shop.Line" := by decide
  have dotted : String.ofList (List.replicate 2 '.') ++ ".shop.shop.Line" =
      "...shop.shop.Line" := by decide
  have flat : "_".intercalate ["shop", "Line"] = "shop_Line" := by decide
  obtain ⟨joined, -, bare, dots, within⟩ :=
    ofParts_agree ".shop." ["shop"] "Line" (.inr package) segments
  have more := dots 2
  rw [name, dotless] at bare
  rw [name, dotted] at more
  exact ⟨package, segments, name, joined.trans name, bare, more, within.trans flat⟩

end FlowSchema.QualifiedName
