import FlowSchema.Record

namespace FlowSchema

/-- A run that notes down what it does. A failure keeps the notes made before it. -/
structure Traced (α : Type) where
  log : List Record
  outcome : Except Failure α

namespace Traced

variable {α β : Type}

def record (r : Record) : Traced Unit := ⟨[r], .ok ()⟩

def ofExcept (x : Except Failure α) : Traced α := ⟨[], x⟩

def andThen (x : Traced α) (f : α → Traced β) : Traced β :=
  match x.outcome with
  | .ok a => ⟨x.log ++ (f a).log, (f a).outcome⟩
  | .error e => ⟨x.log, .error e⟩

instance : Monad Traced where
  pure a := ⟨[], .ok a⟩
  bind := andThen

instance : MonadLift (Except Failure) Traced := ⟨ofExcept⟩

@[ext] theorem ext {x y : Traced α} (hl : x.log = y.log) (ho : x.outcome = y.outcome) : x = y := by
  cases x; cases y; cases hl; cases ho; rfl

@[simp] theorem pure_log (a : α) : (pure a : Traced α).log = [] := rfl

@[simp] theorem pure_outcome (a : α) : (pure a : Traced α).outcome = .ok a := rfl

theorem bind_of_ok {x : Traced α} {a : α} (h : x.outcome = .ok a) (f : α → Traced β) :
    x >>= f = ⟨x.log ++ (f a).log, (f a).outcome⟩ := by
  simp [bind, andThen, h]

theorem bind_of_error {x : Traced α} {e : Failure} (h : x.outcome = .error e) (f : α → Traced β) :
    x >>= f = ⟨x.log, .error e⟩ := by
  simp [bind, andThen, h]

@[simp] theorem bind_outcome (x : Traced α) (f : α → Traced β) :
    (x >>= f).outcome = x.outcome >>= fun a => (f a).outcome := by
  cases h : x.outcome with
  | ok a => simp [bind_of_ok h]; rfl
  | error e => simp [bind_of_error h]; rfl

instance : LawfulMonad Traced := LawfulMonad.mk' Traced
  (fun x => by
    cases h : x.outcome with
    | ok a => ext1 <;> simp [Functor.map, andThen, h]
    | error e => ext1 <;> simp [Functor.map, andThen, h])
  (fun a f => by ext1 <;> simp [bind, andThen, pure])
  (fun x f g => by
    cases hx : x.outcome with
    | error e => rw [bind_of_error hx, bind_of_error hx, bind_of_error rfl]
    | ok a =>
      have hxf : (x >>= f).outcome = (f a).outcome := by rw [bind_of_ok hx]
      cases hf : (f a).outcome with
      | error e =>
        rw [bind_of_error (hxf.trans hf), bind_of_ok hx, bind_of_ok hx, bind_of_error hf]
      | ok b =>
        rw [bind_of_ok (hxf.trans hf), bind_of_ok hx, bind_of_ok hx, bind_of_ok hf]
        simp)

@[simp] theorem map_outcome (g : α → β) (x : Traced α) : (g <$> x).outcome = g <$> x.outcome := by
  rw [← bind_pure_comp, bind_outcome]
  cases x.outcome <;> rfl

theorem mapM_outcome (f : α → Traced β) (as : List α) :
    (as.mapM f).outcome = as.mapM fun a => (f a).outcome := by
  induction as with
  | nil => simp [pure, Except.pure]
  | cons a as ih => simp [List.mapM_cons, ih]

end Traced

end FlowSchema
