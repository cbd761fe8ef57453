import FlowSchema.Descriptor

namespace FlowSchema

inductive Slot
  | field (f : FieldDescriptor)
  | extension (f : FieldDescriptor)
deriving DecidableEq

namespace MessageDescriptor

theorem nested_induction {P : MessageDescriptor → Prop}
    (step : ∀ m : MessageDescriptor, (∀ n ∈ m.nested, P n) → P m) (m : MessageDescriptor) :
    P m := by
  refine @MessageDescriptor.rec P (fun ms => ∀ n ∈ ms, P n) ?_ ?_ ?_ m
  · intro _ _ nested _ _ _ _ h
    exact step _ h
  · intro n hn
    cases hn
  · intro m ms hm hms n hn
    rcases List.mem_cons.mp hn with rfl | hn
    · exact hm
    · exact hms n hn

inductive Visible (ms : List MessageDescriptor) : MessageDescriptor → Prop
  | top {m : MessageDescriptor} (mem : m ∈ ms) (plain : m.isMapEntry = false) : Visible ms m
  | nested {m n : MessageDescriptor} (outer : Visible ms m) (mem : n ∈ m.nested)
      (plain : n.isMapEntry = false) : Visible ms n

theorem Visible.trans {ms : List MessageDescriptor} {m n : MessageDescriptor}
    (hm : Visible ms m) (hn : Visible m.nested n) : Visible ms n := by
  induction hn with
  | top mem plain => exact hm.nested mem plain
  | nested _ mem plain ih => exact ih.nested mem plain

theorem Visible.outermost {ms : List MessageDescriptor} {n : MessageDescriptor}
    (h : Visible ms n) : ∃ m ∈ ms, m.isMapEntry = false ∧ (n = m ∨ Visible m.nested n) := by
  induction h with
  | @top m mem plain => exact ⟨m, mem, plain, .inl rfl⟩
  | @nested m n _ mem plain ih =>
    obtain ⟨k, hk, hplain, rfl | inside⟩ := ih
    · exact ⟨m, hk, hplain, .inr (.top mem plain)⟩
    · exact ⟨k, hk, hplain, .inr (inside.nested mem plain)⟩

theorem Visible.mono {ms ms' : List MessageDescriptor} {m : MessageDescriptor}
    (h : Visible ms m) (subset : ms ⊆ ms') : Visible ms' m := by
  induction h with
  | top mem plain => exact .top (subset mem) plain
  | nested _ mem plain ih => exact ih.nested mem plain

theorem Visible.of_mem {ms : List MessageDescriptor} {m n : MessageDescriptor}
    (h : Visible [m] n) (hm : m ∈ ms) : Visible ms n :=
  h.mono (List.cons_subset.mpr ⟨hm, List.nil_subset ms⟩)

/-- A message that no map entry holds, under the names of those around it, outermost first. -/
inductive Located : List MessageDescriptor → List String → MessageDescriptor → Prop
  | top {ms : List MessageDescriptor} {m : MessageDescriptor} (mem : m ∈ ms)
      (plain : m.isMapEntry = false) : Located ms [] m
  | inside {ms : List MessageDescriptor} {k m : MessageDescriptor} {path : List String}
      (mem : k ∈ ms) (plain : k.isMapEntry = false) (rest : Located k.nested path m) :
      Located ms (k.name :: path) m

theorem Located.plain {ms : List MessageDescriptor} {path : List String} {m : MessageDescriptor}
    (h : Located ms path m) : m.isMapEntry = false := by
  induction h with
  | top mem plain => exact plain
  | inside _ _ _ ih => exact ih

mutual

def slots : MessageDescriptor → List Slot
  | m@{ nested := inner, .. } =>
    if m.isMapEntry then []
    else m.fields.map .field ++ slotsAll inner ++ m.extensions.map .extension

def slotsAll : List MessageDescriptor → List Slot
  | [] => []
  | m :: ms => m.slots ++ slotsAll ms

end

theorem slotsAll_eq (ms : List MessageDescriptor) : slotsAll ms = ms.flatMap slots := by
  induction ms with
  | nil => rfl
  | cons m ms ih => rw [slotsAll, ih, List.flatMap_cons]

theorem slots_of_isMapEntry {m : MessageDescriptor} (h : m.isMapEntry = true) : m.slots = [] := by
  cases m
  rw [slots, if_pos h]

theorem slots_eq {m : MessageDescriptor} (h : m.isMapEntry = false) :
    m.slots = m.fields.map .field ++ slotsAll m.nested ++ m.extensions.map .extension := by
  cases m
  rw [slots, if_neg (by simp [h])]

theorem visible_of_mem_slots (m : MessageDescriptor) {ms : List MessageDescriptor} {x : Slot}
    (hm : m ∈ ms) (hx : x ∈ m.slots) :
    ∃ n, Visible ms n ∧ x ∈ n.fields.map Slot.field ++ n.extensions.map Slot.extension := by
  induction m using nested_induction generalizing ms with
  | step m ih =>
    cases h : m.isMapEntry with
    | true => simp [slots_of_isMapEntry h] at hx
    | false =>
      have hv : Visible ms m := .top hm h
      rw [slots_eq h, slotsAll_eq, List.append_assoc, List.mem_append, List.mem_append] at hx
      rcases hx with hx | hx | hx
      · exact ⟨m, hv, List.mem_append_left _ hx⟩
      · obtain ⟨n, hn, hx⟩ := List.mem_flatMap.mp hx
        obtain ⟨k, hk, hx⟩ := ih n hn hn hx
        exact ⟨k, hv.trans hk, hx⟩
      · exact ⟨m, hv, List.mem_append_right _ hx⟩

theorem Visible.slots_subset {ms : List MessageDescriptor} {m : MessageDescriptor}
    (h : Visible ms m) : m.slots ⊆ slotsAll ms := by
  induction h with
  | top mem plain =>
    intro x hx
    rw [slotsAll_eq]
    exact List.mem_flatMap.mpr ⟨_, mem, hx⟩
  | @nested m n outer mem plain ih =>
    intro x hx
    have hm : m.isMapEntry = false := by cases outer <;> assumption
    apply ih
    rw [slots_eq hm, slotsAll_eq, List.append_assoc]
    exact List.mem_append_right _ (List.mem_append_left _ (List.mem_flatMap.mpr ⟨n, mem, hx⟩))

theorem mem_slotsAll {ms : List MessageDescriptor} {x : Slot} :
    x ∈ slotsAll ms ↔
      ∃ m, Visible ms m ∧ x ∈ m.fields.map Slot.field ++ m.extensions.map Slot.extension := by
  constructor
  · intro hx
    rw [slotsAll_eq] at hx
    obtain ⟨m, hm, hx⟩ := List.mem_flatMap.mp hx
    exact visible_of_mem_slots m hm hx
  · rintro ⟨m, hm, hx⟩
    have plain : m.isMapEntry = false := by cases hm <;> assumption
    apply hm.slots_subset
    rw [slots_eq plain, List.append_assoc, List.mem_append, List.mem_append]
    rcases List.mem_append.mp hx with hx | hx
    · exact .inl hx
    · exact .inr (.inr hx)

end MessageDescriptor

end FlowSchema
