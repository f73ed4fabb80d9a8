import Almanac.Cursor.Dates
import Almanac.Proofs.Cursor.ZonedTimes

/-! Advancing by days. A value precedes a day just if the day of the value comes before, whatever its
time, so that a cut at the midnight of a day is a cut between days: `nth?_advanceTo`. -/

namespace Almanac

namespace Moment

theorem precedes_wholeDay_iff {m : Moment} {d : Date} :
    m.Precedes (.wholeDay d) ↔ m.date.dayNumber < d.dayNumber := by
  rw [Precedes, second_wholeDay]
  cases m with
  | wholeDay e =>
    rw [second_wholeDay, date]
    omega
  | timed t =>
    have htime := t.time.toSeconds_lt
    rw [second_timed, date]
    omega

end Moment

namespace DateCursor

variable {γ : Type} [OccurrenceCursor γ]

/-- The date that is handed out after `k` others. -/
def nth? (c : DateCursor γ) : Nat → Option Date
  | 0 => c.next.1
  | k + 1 => c.next.2.nth? k

variable [HasPending γ]

def pending (c : DateCursor γ) : List Date :=
  (HasPending.pending c.inner).map Moment.date

theorem fst_next (c : DateCursor γ) : c.next.1 = c.pending.head? := by
  show (OccurrenceCursor.next c.inner).1.map Moment.date = _
  rw [(HasPending.next_eq c.inner).1, pending, List.head?_map]

theorem pending_next (c : DateCursor γ) : c.next.2.pending = c.pending.tail := by
  show (HasPending.pending (OccurrenceCursor.next c.inner).2).map Moment.date = _
  rw [(HasPending.next_eq c.inner).2, pending, List.map_tail]

theorem nth?_eq (c : DateCursor γ) (k : Nat) : c.nth? k = c.pending[k]? := by
  induction k generalizing c with
  | zero => rw [nth?, c.fst_next, List.head?_eq_getElem?]
  | succ k ih => rw [nth?, ih, c.pending_next, List.getElem?_tail]

theorem pending_advanceTo_date {c : DateCursor γ} (h : Moment.InOrder (HasPending.pending c.inner))
    (day : Date) :
    (c.advanceTo day).2.pending =
      c.pending.filter fun d => decide (day.dayNumber ≤ d.dayNumber) := by
  have hcut : (fun d : Date => decide (day.dayNumber ≤ d.dayNumber)) ∘ Moment.date =
      fun m => decide (¬m.Precedes (.wholeDay day)) := by
    funext m
    rw [Function.comp_apply, decide_eq_decide, Moment.precedes_wholeDay_iff, Int.not_lt]
  show (HasPending.pending (OccurrenceCursor.advanceTo _ c.inner).2).map Moment.date = _
  rw [HasPending.advanceTo_eq, h.dropWhile_eq_filter, pending, List.filter_map, hcut]

/-- After advancing to a day the dates handed out are those that were to come and are not before
that day, as often as they were and in their order. -/
theorem nth?_advanceTo {c : DateCursor γ} (h : Moment.InOrder (HasPending.pending c.inner))
    (day : Date) :
    (∀ k, c.nth? k = c.pending[k]?) ∧
      ∀ k, (c.advanceTo day).2.nth? k =
        (c.pending.filter fun d => decide (day.dayNumber ≤ d.dayNumber))[k]? := by
  refine ⟨c.nth?_eq, ?_⟩
  intro k
  rw [nth?_eq, pending_advanceTo_date h]

/-- The last second of one day; the next day, its midnight and, twice, nine o'clock on it; and the day
after that. -/
theorem nth?_advanceTo_midnight :
    let last := Moment.ofSecond 1704153599 false
    let second : Date := ⟨2024, 1, 2, by decide⟩
    let third : Date := ⟨2024, 1, 3, by decide⟩
    let midnight := Moment.ofSecond 1704153600 false
    let nine := Moment.ofSecond 1704186000 false
    let values := [last, .wholeDay second, midnight, nine, nine, .wholeDay third]
    let c : DateCursor FixedCursor := ⟨⟨values⟩⟩
    Moment.InOrder values ∧
      ∀ k, (c.advanceTo second).2.nth? k = [second, second, second, second, third][k]? := by
  intro last second third midnight nine values c
  have horder : Moment.InOrder values := by
    unfold Moment.InOrder
    decide +kernel
  have hleft : (c.pending.filter fun d => decide (second.dayNumber ≤ d.dayNumber)) =
      [second, second, second, second, third] := by
    decide +kernel
  refine ⟨horder, ?_⟩
  rw [← hleft]
  exact (nth?_advanceTo (c := c) horder second).2

end DateCursor

end Almanac
