namespace FlowSchema.Unicode

/-- Code points from `first` to `last`, every `step`-th of them. -/
structure Run where
  first : Nat
  last : Nat
  step : Nat

def Run.contains (r : Run) (n : Nat) : Bool :=
  r.first ≤ n && n ≤ r.last && (n - r.first) % r.step == 0

/-- A run whose code points move together: `first` goes to `target`. -/
structure Shift extends Run where
  target : Nat

def Shift.image? (s : Shift) (n : Nat) : Option Nat :=
  if s.contains n then some (s.target + (n - s.first)) else none

end FlowSchema.Unicode
