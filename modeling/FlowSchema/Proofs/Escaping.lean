import FlowSchema.Identifier
import FlowSchema.Proofs.CaseMapping

namespace FlowSchema

open Unicode

namespace Text

theorem isWordChar_of_mem_words {c : Char} {s w : List Char} (hw : w ∈ words s) (h : c ∈ w) :
    isWordChar c = true := by
  obtain ⟨run, hrun, hw⟩ := List.mem_flatMap.mp hw
  have inside : c ∈ (humps .none run).flatten := List.mem_flatten.mpr ⟨w, hw, h⟩
  rw [flatten_humps] at inside
  have word := not_of_mem_splitOnP (List.mem_of_mem_filter hrun) c inside
  rwa [Bool.not_eq_false'] at word

theorem isWordChar_of_mem_lowerCamel {x : Char} (hx : IsMark x) {s : List Char}
    (h : x ∈ lowerCamel s) : isWordChar x = true := by
  obtain ⟨w, hw, h⟩ := exists_word_of_mem_lowerCamel hx h
  exact isWordChar_of_mem_words hw h

end Text

namespace Identifier

theorem underscore_not_mem_camel (s : String) : '_' ∉ (camel s).toList := by
  intro h
  rw [camel, String.toList_ofList] at h
  have mark : IsMark '_' := ⟨by decide, by decide⟩
  exact absurd (Text.isWordChar_of_mem_lowerCamel mark h) (by decide)

theorem underscore_mem_escaped (s : String) : '_' ∈ ("pb_" ++ s).toList := by
  simp

theorem underscore_not_mem_reserved : ∀ word ∈ reserved, '_' ∉ word.toList := by
  decide

theorem escape_not_reserved (s : String) : escape s ∉ reserved := by
  unfold escape
  split
  · exact fun word => underscore_not_mem_reserved _ word (underscore_mem_escaped s)
  · assumption

theorem escape_inj {s t : String} (hs : '_' ∉ s.toList) (ht : '_' ∉ t.toList) :
    escape s = escape t ↔ s = t := by
  have apart {s t : String} (ht : '_' ∉ t.toList) : "pb_" ++ s ≠ t := by
    rintro rfl
    exact ht (underscore_mem_escaped s)
  by_cases rs : s ∈ reserved <;> by_cases rt : t ∈ reserved
  · rw [escape, escape, if_pos rs, if_pos rt, String.append_right_inj]
  · rw [escape, escape, if_pos rs, if_neg rt]
    exact iff_of_false (apart ht) fun same => rt (same ▸ rs)
  · rw [escape, escape, if_neg rs, if_pos rt]
    exact iff_of_false (apart hs).symm fun same => rs (same ▸ rt)
  · rw [escape, escape, if_neg rs, if_neg rt]

theorem fieldName_inj {s t : String} : fieldName s = fieldName t ↔ camel s = camel t :=
  escape_inj (underscore_not_mem_camel s) (underscore_not_mem_camel t)

theorem underscore_mem_fieldName {s : String} :
    '_' ∈ (fieldName s).toList ↔ ∃ word ∈ reserved, fieldName s = "pb_" ++ word := by
  constructor
  · intro h
    rw [fieldName, escape] at h ⊢
    split at h
    · rename_i word
      rw [if_pos word]
      exact ⟨camel s, word, rfl⟩
    · exact absurd h (underscore_not_mem_camel s)
  · rintro ⟨word, -, escaped⟩
    rw [escaped]
    exact underscore_mem_escaped word

theorem fieldName_escapes :
    (∀ s, fieldName s ∉ reserved ∧
      ('_' ∈ (fieldName s).toList ↔ ∃ word ∈ reserved, fieldName s = "pb_" ++ word)) ∧
    ∀ s t, fieldName s = fieldName t ↔
      Text.lowerCamel (Text.lower s.toList) = Text.lowerCamel (Text.lower t.toList) := by
  refine ⟨fun s => ⟨escape_not_reserved (camel s), underscore_mem_fieldName⟩, fun s t => ?_⟩
  rw [fieldName_inj, camel, camel, String.ofList_inj]

end Identifier

end FlowSchema
