import FlowSchema.Traced
import Mathlib.Data.List.Forall2

namespace FlowSchema

variable {α β γ : Type}

theorem map_eq_map_of_forall₂ {R : α → β → Prop} {as : List α} {bs : List β} {g : β → γ} {k : α → γ}
    (h : List.Forall₂ R as bs) (hk : ∀ a ∈ as, ∀ b, R a b → g b = k a) : bs.map g = as.map k := by
  induction h with
  | nil => rfl
  | @cons a b as bs hab _ ih =>
    rw [List.map_cons, List.map_cons, hk a List.mem_cons_self b hab,
      ih fun a' ha' => hk a' (List.mem_cons_of_mem a ha')]

theorem forall₂_imp_of_mem {R S : α → β → Prop} {as : List α} {bs : List β}
    (h : List.Forall₂ R as bs) (hs : ∀ a ∈ as, ∀ b, R a b → S a b) : List.Forall₂ S as bs := by
  induction h with
  | nil => exact .nil
  | @cons a b as bs hab _ ih =>
    exact .cons (hs a List.mem_cons_self b hab)
      (ih fun a' ha' => hs a' (List.mem_cons_of_mem a ha'))

theorem forall₂_comp {R : α → β → Prop} {S : β → γ → Prop} {T : α → γ → Prop} {as : List α}
    {bs : List β} {cs : List γ} (hr : List.Forall₂ R as bs) (hs : List.Forall₂ S bs cs)
    (h : ∀ a b c, R a b → S b c → T a c) : List.Forall₂ T as cs := by
  induction hr generalizing cs with
  | nil =>
    cases hs
    exact .nil
  | cons hab _ ih =>
    cases hs with
    | cons hbc rest => exact .cons (h _ _ _ hab hbc) (ih rest)

theorem exists_of_mem_right {R : α → β → Prop} {as : List α} {bs : List β} {b : β}
    (h : List.Forall₂ R as bs) (hb : b ∈ bs) : ∃ a ∈ as, R a b := by
  induction h with
  | nil => cases hb
  | @cons a b' as bs hab _ ih =>
    rcases List.mem_cons.mp hb with rfl | hb
    · exact ⟨a, List.mem_cons_self, hab⟩
    · obtain ⟨a', ha', h⟩ := ih hb
      exact ⟨a', List.mem_cons_of_mem a ha', h⟩

theorem bind_eq_ok {x : Except Failure α} {f : α → Except Failure β} {b : β} :
    x >>= f = .ok b ↔ ∃ a, x = .ok a ∧ f a = .ok b := by
  cases x <;> simp [bind, Except.bind]

theorem map_eq_ok {x : Except Failure α} {g : α → β} {b : β} :
    g <$> x = .ok b ↔ ∃ a, x = .ok a ∧ g a = b := by
  cases x <;> simp [Functor.map, Except.map]

theorem pure_eq_ok {a b : α} : (pure a : Except Failure α) = .ok b ↔ a = b := by
  simp [pure, Except.pure]

theorem mapM_eq_ok {f : α → Except Failure β} {as : List α} {bs : List β} :
    as.mapM f = .ok bs ↔ List.Forall₂ (fun a b => f a = .ok b) as bs := by
  induction as generalizing bs with
  | nil => cases bs <;> simp [pure, Except.pure]
  | cons a as ih =>
    simp only [List.mapM_cons, bind_eq_ok, pure_eq_ok, List.forall₂_cons_left_iff, ih]
    constructor
    · rintro ⟨b, hb, bs, hbs, rfl⟩
      exact ⟨b, bs, hb, hbs, rfl⟩
    · rintro ⟨b, bs, hb, hbs, rfl⟩
      exact ⟨b, hb, bs, hbs, rfl⟩

@[simp] theorem mapM_ok (g : α → β) (as : List α) :
    as.mapM (fun a => (.ok (g a) : Except Failure β)) = .ok (as.map g) := by
  rw [mapM_eq_ok, List.forall₂_map_right_iff, List.forall₂_same]
  exact fun _ _ => rfl

@[simp] theorem ok_bind (a : α) (f : α → Except Failure β) : Except.ok a >>= f = f a := rfl

theorem mapM_append_eq_ok {f : α → Except Failure β} {as bs : List α} {cs : List β} :
    (as ++ bs).mapM f = .ok cs ↔
    ∃ first second, as.mapM f = .ok first ∧ bs.mapM f = .ok second ∧ cs = first ++ second := by
  rw [List.mapM_append]
  simp only [bind_eq_ok, pure_eq_ok]
  constructor
  · rintro ⟨first, hfirst, second, hsecond, rfl⟩
    exact ⟨first, second, hfirst, hsecond, rfl⟩
  · rintro ⟨first, second, hfirst, hsecond, rfl⟩
    exact ⟨first, hfirst, second, hsecond, rfl⟩

theorem mapM_append_eq_error {f : α → Except Failure β} {as bs : List α} {e : Failure} :
    (as ++ bs).mapM f = .error e ↔
    as.mapM f = .error e ∨ (∃ first, as.mapM f = .ok first) ∧ bs.mapM f = .error e := by
  rw [List.mapM_append]
  cases as.mapM f with
  | error e' => simp [bind, Except.bind]
  | ok first =>
    cases bs.mapM f with
    | error e' => simp [bind, Except.bind]
    | ok second => simp [bind, Except.bind, pure, Except.pure]

def failureOf : Except Failure α → Option Failure
  | .ok _ => none
  | .error e => some e

@[simp] theorem failureOf_ok (a : α) : failureOf (.ok a : Except Failure α) = none := rfl

@[simp] theorem failureOf_pure (a : α) : failureOf (pure a : Except Failure α) = none := rfl

@[simp] theorem failureOf_error (e : Failure) :
    failureOf (.error e : Except Failure α) = some e := rfl

theorem failureOf_eq_none {x : Except Failure α} : failureOf x = none ↔ ∃ a, x = .ok a := by
  cases x <;> simp

theorem failureOf_eq_some {x : Except Failure α} {e : Failure} :
    failureOf x = some e ↔ x = .error e := by
  cases x <;> simp

@[simp] theorem failureOf_map (g : α → β) (x : Except Failure α) :
    failureOf (g <$> x) = failureOf x := by
  cases x <;> rfl

theorem failureOf_bind {x : Except Failure α} {f : α → Except Failure β} {rest : Option Failure}
    (h : ∀ a, x = .ok a → failureOf (f a) = rest) :
    failureOf (x >>= f) = (failureOf x).or rest := by
  cases x with
  | error e => rfl
  | ok a => exact h a rfl

theorem failureOf_mapM {f : α → Except Failure β} {faults : α → List Failure} {as : List α}
    (h : ∀ a ∈ as, failureOf (f a) = (faults a).head?) :
    failureOf (as.mapM f) = (as.flatMap faults).head? := by
  induction as with
  | nil => rfl
  | cons a as ih =>
    have ha := h a List.mem_cons_self
    have has := ih fun b hb => h b (List.mem_cons_of_mem a hb)
    rw [List.mapM_cons, List.flatMap_cons, List.head?_append, ← ha, ← has]
    exact failureOf_bind fun _ _ => by
      rw [failureOf_bind fun _ _ => failureOf_pure _, Option.or_none]

namespace Traced

@[simp] theorem record_outcome (r : Record) : (record r).outcome = .ok () := rfl

@[simp] theorem lift_outcome (x : Except Failure α) : (liftM x : Traced α).outcome = x := rfl

@[simp] theorem record_bind_outcome (r : Record) (f : Unit → Traced β) :
    (record r >>= f).outcome = (f ()).outcome := by
  rw [bind_outcome]
  rfl

end Traced

end FlowSchema
