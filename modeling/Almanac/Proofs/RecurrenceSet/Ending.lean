import Almanac.Proofs.Supply
import Almanac.RecurrenceSet.Run

/-! Rules and recurrence sets end for good. A rule at its end stands still, and a set ends only when
every rule of it and its dates are used up. -/

namespace Almanac

namespace Expansion

theorem nextWithin_of_ended {r : Rule} {zone : Zone} {start : Int} {steps steps' : Nat}
    {p p' : Position} (h : nextWithin r zone start steps p = (none, steps', p')) :
    nextWithin r zone start steps' p' = (none, steps', p') := by
  induction steps generalizing p with
  | zero =>
    simp only [nextWithin, Prod.mk.injEq, true_and] at h
    obtain ⟨rfl, rfl⟩ := h
    rfl
  | succ steps ih =>
    unfold nextWithin at h
    split at h
    · simp at h
    · next hready hcounter =>
      simp only [Prod.mk.injEq, true_and] at h
      obtain ⟨rfl, rfl⟩ := h
      rw [nextWithin, hready, hcounter]
    · exact ih h

theorem next_of_ended {e e' : Expansion} (h : e.next = (none, e')) : e'.next = (none, e') := by
  simp only [next, Prod.mk.injEq] at h
  obtain ⟨hnone, rfl⟩ := h
  have hstill := nextWithin_of_ended (Prod.ext hnone rfl)
  simp only [next, hstill]

instance : Supply.EndsForGood Expansion where
  toList_of_ended h := Supply.toList_of_none (next_of_ended h)

end Expansion

namespace Strand

def IsSpent (s : Strand) : Prop :=
  s.head? = none ∧ Supply.toList s.expansion = []

theorem toList_nextKept_of_none {x : Exclusion} {e : Expansion} (h : (nextKept x e).1 = none) :
    Supply.toList (nextKept x e).2.1 = [] := by
  fun_induction nextKept x e with
  | case1 x e e' hnext => exact Supply.EndsForGood.toList_of_ended hnext
  | case2 x e n e' hnext x' hx => simp at h
  | case3 x e n e' hnext x' hx ih => exact ih h

theorem nextKept_of_toList {x : Exclusion} {e : Expansion} (h : Supply.toList e = []) :
    (nextKept x e).1 = none := by
  have hfst : (Supply.next e).1 = none := by rw [Supply.fst_next, h, List.head?_nil]
  fun_induction nextKept x e with
  | case1 x e e' hnext => rfl
  | case2 x e n e' hnext x' hx => exact absurd hfst (by simp [Supply.next, hnext])
  | case3 x e n e' hnext x' hx ih => exact absurd hfst (by simp [Supply.next, hnext])

theorem isSpent_fill_of_none {x : Exclusion} {s : Strand} (h : (fill x s).1.head? = none) :
    IsSpent (fill x s).1 := by
  refine ⟨h, ?_⟩
  unfold fill at h ⊢
  split
  · next n hs => simp [hs] at h
  · next hs =>
    simp only [hs] at h
    exact toList_nextKept_of_none h

theorem isSpent_fill {x : Exclusion} {s : Strand} (h : IsSpent s) : IsSpent (fill x s).1 := by
  apply isSpent_fill_of_none
  unfold fill
  rw [h.1]
  exact nextKept_of_toList h.2

theorem isSpent_of_mem_fillAll {x : Exclusion} {ss : List Strand} {s : Strand}
    (hs : s ∈ (fillAll x ss).1) (h : s.head? = none) : IsSpent s := by
  induction ss generalizing x with
  | nil => simp [fillAll] at hs
  | cons t ts ih =>
    simp only [fillAll, List.mem_cons] at hs
    rcases hs with rfl | hs
    · exact isSpent_fill_of_none h
    · exact ih hs

theorem isSpent_fillAll {x : Exclusion} {ss : List Strand} (h : ∀ s ∈ ss, IsSpent s) :
    ∀ s ∈ (fillAll x ss).1, IsSpent s := by
  induction ss generalizing x with
  | nil => simp [fillAll]
  | cons t ts ih =>
    intro s hs
    simp only [fillAll, List.mem_cons] at hs
    rcases hs with rfl | hs
    · exact isSpent_fill (h t List.mem_cons_self)
    · exact ih (fun u hu => h u (List.mem_cons_of_mem t hu)) s hs

theorem takeEarliest_eq_none_iff {ss : List Strand} :
    takeEarliest ss = none ↔ ∀ s ∈ ss, s.head? = none := by
  induction ss with
  | nil => simp [takeEarliest]
  | cons s ss ih =>
    rw [List.forall_mem_cons, ← ih, takeEarliest]
    cases hs : s.head? with
    | none => simp
    | some n =>
      cases ht : takeEarliest ss with
      | none => simp
      | some p => by_cases hle : p.1 ≤ n <;> simp [hle]

end Strand

namespace SetRun

theorem next_of_spent {run : SetRun} (hs : ∀ s ∈ run.strands, s.IsSpent) (hd : run.dates = []) :
    run.next.1 = none := by
  have hheads : Strand.takeEarliest (Strand.fillAll run.exclusion run.strands).1 = none :=
    Strand.takeEarliest_eq_none_iff.2 fun s h => (Strand.isSpent_fillAll hs s h).1
  simp only [next, hheads, hd, Exclusion.dropExcluded]

theorem spent_of_ended {run run' : SetRun} (h : run.next = (none, run')) :
    (∀ s ∈ run'.strands, s.IsSpent) ∧ run'.dates = [] := by
  unfold next at h
  dsimp only at h
  split at h
  · next hheads hdates =>
    simp only [Prod.mk.injEq, true_and] at h
    subst h
    refine ⟨fun s hs => ?_, rfl⟩
    exact Strand.isSpent_of_mem_fillAll hs (Strand.takeEarliest_eq_none_iff.1 hheads s hs)
  · simp at h
  · simp at h
  · split at h <;> simp at h

instance : Supply.EndsForGood SetRun where
  toList_of_ended {run run'} h := by
    obtain ⟨hs, hd⟩ := spent_of_ended h
    rw [← List.head?_eq_none_iff, ← Supply.fst_next]
    exact next_of_spent hs hd

end SetRun

end Almanac
