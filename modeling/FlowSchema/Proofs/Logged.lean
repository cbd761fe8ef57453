import FlowSchema.Proofs.Outcome

namespace FlowSchema.Traced

variable {α β : Type}

theorem pure_eq_mk {a b : α} {log : List Record} :
    (pure a : Traced α) = ⟨log, .ok b⟩ ↔ a = b ∧ log = [] := by
  rw [Traced.ext_iff, pure_log, pure_outcome, Except.ok.injEq, and_comm, eq_comm (a := log)]

theorem bind_eq_mk {x : Traced α} {f : α → Traced β} {b : β} {log : List Record} :
    x >>= f = ⟨log, .ok b⟩ ↔
      ∃ a first rest, x = ⟨first, .ok a⟩ ∧ f a = ⟨rest, .ok b⟩ ∧ log = first ++ rest := by
  obtain ⟨first, outcome⟩ := x
  constructor
  · intro h
    cases outcome with
    | error e =>
      rw [bind_of_error rfl, Traced.ext_iff] at h
      cases h.2
    | ok a =>
      rw [bind_of_ok rfl, Traced.ext_iff] at h
      exact ⟨a, first, (f a).log, rfl, Traced.ext rfl h.2, h.1.symm⟩
  · rintro ⟨a, _, rest, hx, hf, rfl⟩
    rw [hx, bind_of_ok rfl, hf]

theorem lift_bind_eq_mk {x : Except Failure α} {f : α → Traced β} {b : β} {log : List Record} :
    (liftM x : Traced α) >>= f = ⟨log, .ok b⟩ ↔ ∃ a, x = .ok a ∧ f a = ⟨log, .ok b⟩ := by
  rw [bind_eq_mk]
  constructor
  · rintro ⟨a, first, rest, hx, hf, rfl⟩
    cases hx
    exact ⟨a, rfl, hf⟩
  · rintro ⟨a, rfl, hf⟩
    exact ⟨a, [], log, rfl, hf, rfl⟩

theorem record_bind_eq_mk {r : Record} {f : Unit → Traced β} {b : β} {log : List Record} :
    record r >>= f = ⟨log, .ok b⟩ ↔ ∃ rest, f () = ⟨rest, .ok b⟩ ∧ log = r :: rest := by
  rw [bind_eq_mk]
  constructor
  · rintro ⟨_, first, rest, hr, hf, rfl⟩
    cases hr
    exact ⟨rest, hf, rfl⟩
  · rintro ⟨rest, hf, rfl⟩
    exact ⟨(), [r], rest, rfl, hf, rfl⟩

theorem mapM_eq_mk {f : α → Traced β} {as : List α} {bs : List β} {log : List Record} :
    as.mapM f = ⟨log, .ok bs⟩ ↔ ∃ parts : List (β × List Record),
      List.Forall₂ (fun a part => f a = ⟨part.2, .ok part.1⟩) as parts ∧
      bs = parts.map Prod.fst ∧ log = parts.flatMap Prod.snd := by
  induction as generalizing bs log with
  | nil =>
    rw [List.mapM_nil, pure_eq_mk]
    simp [eq_comm]
  | cons a as ih =>
    simp only [List.mapM_cons, bind_eq_mk, pure_eq_mk, ih, List.forall₂_cons_left_iff]
    constructor
    · rintro ⟨b, first, _, ha, ⟨_, _, _, ⟨parts, hparts, rfl, rfl⟩, ⟨rfl, rfl⟩, rfl⟩, rfl⟩
      exact ⟨(b, first) :: parts, ⟨_, _, ha, hparts, rfl⟩, rfl, by simp⟩
    · rintro ⟨_, ⟨⟨b, first⟩, parts, ha, hparts, rfl⟩, rfl, rfl⟩
      exact ⟨b, first, _, ha, ⟨_, _, [], ⟨parts, hparts, rfl, rfl⟩, ⟨rfl, rfl⟩, rfl⟩, by simp⟩

end FlowSchema.Traced
