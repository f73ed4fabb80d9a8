import Almanac.Expansion.Basic
import Almanac.Proofs.Supply

/-! What all occurrences of a rule have in common. Whatever holds of the occurrences of every period
holds of all that the rule gives: `forall_mem_toList`. So a rule gives nothing before its start. -/

namespace Almanac.Expansion

open Supply (toList)

variable {P : Int → Prop} {r : Rule} {zone : Zone} {start n : Int}

theorem nextWithin_of_next {e e' : Expansion} (h : Supply.next e = (some n, e')) :
    ∃ steps position,
      nextWithin e.rule e.zone e.start e.steps e.position = (some n, steps, position) ∧
        e' = { e with position, steps } := by
  rcases hw : nextWithin e.rule e.zone e.start e.steps e.position with ⟨n?, steps, position⟩
  have heq : (n?, { e with position, steps }) = (some n, e') := by
    rw [← h]
    show _ = next e
    rw [next, hw]
  obtain ⟨rfl, rfl⟩ := Prod.mk.inj heq
  exact ⟨steps, position, rfl, rfl⟩

theorem forall_ready_of_nextWithin {steps steps' : Nat} {p p' : Position}
    (hperiod : ∀ left? c, ∀ m ∈ (period r zone start left? c).ready, P m)
    (hready : ∀ m ∈ p.ready, P m)
    (h : nextWithin r zone start steps p = (some n, steps', p')) :
    P n ∧ ∀ m ∈ p'.ready, P m := by
  induction steps generalizing p with
  | zero => simp [nextWithin] at h
  | succ steps ih =>
    unfold nextWithin at h
    split at h
    · next _ m ready hcons =>
      simp only [Prod.mk.injEq, Option.some.injEq] at h
      obtain ⟨rfl, -, rfl⟩ := h
      rw [hcons] at hready
      exact List.forall_mem_cons.1 hready
    · simp at h
    · next c _ _ => exact ih (hperiod p.left? c) h

theorem forall_mem_toList {e : Expansion}
    (hperiod : ∀ left? c, ∀ m ∈ (period e.rule e.zone e.start left? c).ready, P m)
    (hready : ∀ m ∈ e.position.ready, P m) : ∀ m ∈ toList e, P m := by
  induction e using Supply.induction with
  | ended e e' hnext =>
    rw [Supply.toList_of_none hnext]
    exact fun m hm => absurd hm List.not_mem_nil
  | given e n e' hnext ih =>
    obtain ⟨steps, position, hw, rfl⟩ := nextWithin_of_next hnext
    obtain ⟨hn, hrest⟩ := forall_ready_of_nextWithin hperiod hready hw
    rw [Supply.toList_of_some hnext]
    exact List.forall_mem_cons.2 ⟨hn, ih hperiod hrest⟩

theorem start_le_of_mem_delivered {left? : Option Nat} {ns : List Int}
    (h : n ∈ delivered r start left? ns) : start ≤ n := by
  have hdue : n ∈ (ns.takeWhile fun n => !isPast r n).filter fun n => decide (start ≤ n) := by
    unfold delivered at h
    cases left? with
    | none => exact h
    | some left => exact List.mem_of_mem_take h
  exact of_decide_eq_true (List.mem_filter.1 hdue).2

theorem start_le_of_mem_ofRule (h : n ∈ toList (ofRule r zone start)) : start ≤ n := by
  refine forall_mem_toList ?_ ?_ n h
  · intro left? c m hm
    exact start_le_of_mem_delivered hm
  · exact fun m hm => absurd hm List.not_mem_nil

end Almanac.Expansion
