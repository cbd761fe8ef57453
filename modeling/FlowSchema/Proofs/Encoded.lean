import FlowSchema.Proofs.Sends

namespace FlowSchema.Wire

namespace Field

mutual

def depth : Field → Nat
  | message _ fields => depthAll fields + 1
  | _ => 0

def depthAll : List Field → Nat
  | [] => 0
  | f :: fs => max f.depth (depthAll fs)

end

theorem depthAll_le {fs : List Field} {n : Nat} : depthAll fs ≤ n ↔ ∀ f ∈ fs, f.depth ≤ n := by
  induction fs with
  | nil => simp [depthAll]
  | cons f fs ih => rw [depthAll, Nat.max_le, ih, List.forall_mem_cons]

inductive Fits : MessageType → Field → Prop
  | scalar {t : MessageType} {number : Nat} {m : Member} {f : Field} {w : WireType}
      {payload : List UInt8} (member : t.member? number = some m)
      (carries : Carries number m.kind f w payload) : Fits t f
  | message {t u : MessageType} {number : Nat} {fields : List Field} {m : Member}
      (member : t.member? number = some m) (kind : m.kind = .message u)
      (inner : ∀ f ∈ fields, Fits u f) : Fits t (.message number fields)

theorem Fits.of_kind {t : MessageType} {number : Nat} {kind : Kind} {f : Field} {w : WireType}
    {payload : List UInt8} (h : (t.member? number).map Member.kind = some kind)
    (carries : Carries number kind f w payload) : Fits t f := by
  obtain ⟨m, member, rfl⟩ := Option.map_eq_some_iff.mp h
  exact .scalar member carries

def AllFit (t : MessageType) (fs : List Field) : Prop := ∀ f ∈ fs, Fits t f

theorem allFit_append {t : MessageType} {fs gs : List Field} :
    AllFit t (fs ++ gs) ↔ AllFit t fs ∧ AllFit t gs :=
  List.forall_mem_append

theorem encode_of_carries {number : Nat} {kind : Kind} {f : Field} {w : WireType}
    {payload : List UInt8} (h : Carries number kind f w payload) :
    f.encode = key number w ++ payload := by
  cases h with
  | varint _ | single _ | double _ => rw [encode]
  | packed _ | bytes _ | text _ => rw [encode, delimited]

end Field

open FlowSchema.Wire.Field

theorem sends_encodeAll {budget : Nat} {t : MessageType} {fs : List Field}
    (fits : AllFit t fs) (depth : depthAll fs ≤ budget) :
    Sends budget t fs (encodeAll fs) := by
  -- Only entering a message lowers the budget: the list is walked within each of them.
  induction budget using Nat.strongRecOn generalizing t fs with
  | ind budget shallower =>
    induction fs with
    | nil => exact .nil
    | cons f fs ih =>
      rw [depthAll, Nat.max_le] at depth
      have rest := ih (fun g hg => fits g (List.mem_cons_of_mem f hg)) depth.2
      rw [encodeAll]
      cases fits f List.mem_cons_self with
      | scalar member carries =>
        rw [encode_of_carries carries]
        exact rest.scalar member carries
      | message member kind inner =>
        rw [Field.depth] at depth
        obtain ⟨below, rfl⟩ : ∃ k, budget = k + 1 := ⟨budget - 1, by omega⟩
        exact .message member kind (shallower below (Nat.lt_succ_self _) inner (by omega)) rest

end FlowSchema.Wire
