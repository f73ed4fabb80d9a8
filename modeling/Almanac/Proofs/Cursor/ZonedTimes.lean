import Almanac.Proofs.Calendar.Instant
import Almanac.Proofs.Cursor.Order
import Almanac.Proofs.RecurrenceSet.Ending
import Almanac.Series.ZonedTimes
import Mathlib.Control.Monad.Basic

/-! Advancing on the clock of a zone. A target is cut down to its second before anything is compared
with it, so that an occurrence in that very second stays although the target may lie after it:
`pending_advanceTo`. -/

namespace Almanac

/-- Cursors that hand out one list of values, which advancing shortens from the front. -/
class HasPending (γ : Type) [OccurrenceCursor γ] where
  /-- The values that are still to be handed out. -/
  pending : γ → List Moment
  next_eq (c : γ) : (OccurrenceCursor.next c).1 = (pending c).head? ∧
    pending (OccurrenceCursor.next c).2 = (pending c).tail
  advanceTo_eq (target : Moment) (c : γ) :
    pending (OccurrenceCursor.advanceTo target c).2 =
      (pending c).dropWhile fun m => decide (m.Precedes target)

instance {σ : Type} [Supply σ Instant] [Supply.EndsForGood σ] : HasPending (Cursor σ) where
  pending := Cursor.pending
  next_eq := Cursor.next_eq
  advanceTo_eq target c := (Cursor.advance_eq target 0 c).2

instance : HasPending FixedCursor where
  pending := FixedCursor.values
  next_eq _ := ⟨rfl, rfl⟩
  advanceTo_eq _ _ := rfl

namespace ZonedTime

theorem second_moment (t : ZonedTime) : (t.moment Zone.utc).second = t.instant.second := by
  show (DateTime.ofSeconds (t.instant.second + 0)).toSeconds = _
  rw [DateTime.toSeconds_ofSeconds, Int.add_zero]

end ZonedTime

namespace ZonedCursor

theorem instant_shown {γ : Type} (c : ZonedCursor γ) (m : Moment) :
    (c.shown m).instant = Instant.ofSecond m.second := by
  unfold shown
  cases c.output with
  | utc => rfl
  | governing => rfl

variable {γ : Type} [OccurrenceCursor γ] [HasPending γ]

def pending (c : ZonedCursor γ) : List ZonedTime :=
  (HasPending.pending c.inner).map c.shown

theorem fst_next (c : ZonedCursor γ) : c.next.1 = c.pending.head? := by
  show (OccurrenceCursor.next c.inner).1.map c.shown = _
  rw [(HasPending.next_eq c.inner).1, pending, List.head?_map]

theorem pending_next (c : ZonedCursor γ) : c.next.2.pending = c.pending.tail := by
  show (HasPending.pending (OccurrenceCursor.next c.inner).2).map c.shown = _
  rw [(HasPending.next_eq c.inner).2, pending, List.map_tail]

theorem pending_advanceTo_eq {c : ZonedCursor γ} (h : Moment.InOrder (HasPending.pending c.inner))
    (target : ZonedTime) :
    (c.advanceTo target).2.pending =
      c.pending.filter fun t => decide (target.instant.second ≤ t.instant.second) := by
  let cut (m : Moment) : Bool := decide (¬m.Precedes (target.moment Zone.utc))
  have hcut : (fun t : ZonedTime => decide (target.instant.second ≤ t.instant.second)) ∘ c.shown =
      cut := by
    funext m
    rw [Function.comp_apply, c.instant_shown, Bool.eq_iff_iff, decide_eq_true_iff,
      decide_eq_true_iff, Moment.Precedes, target.second_moment, Int.not_lt]
    rfl
  show (HasPending.pending (OccurrenceCursor.advanceTo _ c.inner).2).map c.shown = _
  rw [HasPending.advanceTo_eq, h.dropWhile_eq_filter, pending, List.filter_map, hcut]

/-- Advancing leaves the occurrences from the second of the target on. These are the ones that are
not strictly before the target just if the target is a whole second or no occurrence lies in its
second. -/
theorem pending_advanceTo {c : ZonedCursor γ} (h : Moment.InOrder (HasPending.pending c.inner))
    (target : ZonedTime) :
    let after := (c.advanceTo target).2
    after.pending = c.pending.filter
        (fun t => decide (target.instant.second ≤ t.instant.second)) ∧
      after.next.1 = after.pending.head? ∧ after.next.2.pending = after.pending.tail ∧
      (after.pending = c.pending.filter (fun t => decide (¬t.instant.Before target.instant)) ↔
        target.instant.nanosecond = 0 ∨
          ∀ t ∈ c.pending, t.instant.second ≠ target.instant.second) := by
  intro after
  refine ⟨pending_advanceTo_eq h target, fst_next after, pending_next after, ?_⟩
  have hwhole : ∀ t ∈ c.pending, t.instant.nanosecond = 0 := by
    intro t ht
    obtain ⟨m, -, rfl⟩ := List.mem_map.1 ht
    rw [c.instant_shown]
    rfl
  rw [pending_advanceTo_eq h target]
  constructor
  · intro hsame
    by_cases hfine : target.instant.nanosecond = 0
    · exact Or.inl hfine
    · right
      intro t ht heq
      -- the occurrence in the second of the target is left, and it is before the target
      have hleft : t ∈ c.pending.filter
          fun t => decide (target.instant.second ≤ t.instant.second) :=
        List.mem_filter.2 ⟨ht, decide_eq_true (Int.le_of_eq heq.symm)⟩
      rw [hsame, List.mem_filter, decide_eq_true_iff] at hleft
      have hzero := hwhole t ht
      exact hleft.2 (Or.inr ⟨heq, by omega⟩)
  · intro hexact
    apply List.filter_congr
    intro t ht
    have hzero := hwhole t ht
    rw [Bool.eq_iff_iff, decide_eq_true_iff, decide_eq_true_iff, Instant.Before]
    rcases hexact with hsecond | hnone
    · omega
    · have hne := hnone t ht
      omega

/-- A day and a second of that day, and a target half a second before the second. -/
theorem pending_advanceTo_between :
    let day := Moment.ofSecond 1704153600 true
    let nine := Moment.ofSecond 1704186000 false
    let c : ZonedCursor FixedCursor := ⟨⟨[day, nine]⟩, Zone.utc, .utc⟩
    let target : ZonedTime := ⟨⟨1704185999, 500000000, by decide⟩, Zone.utc⟩
    Moment.InOrder [day, nine] ∧ (c.advanceTo target).2.pending = [c.shown nine] ∧
      (c.advanceTo target).2.pending =
        c.pending.filter fun t => decide (¬t.instant.Before target.instant) := by
  intro day nine c target
  have horder : Moment.InOrder [day, nine] := by
    unfold Moment.InOrder
    decide +kernel
  obtain ⟨hleft, -, -, hexact⟩ := pending_advanceTo (c := c) horder target
  refine ⟨horder, ?_, hexact.2 (Or.inr (by decide +kernel))⟩
  rw [hleft]
  decide +kernel

/-- Half a second past midnight is a target at which midnight itself is handed out. -/
theorem next_before_target :
    ∃ s : ZonedSeries,
      ZonedSeries.compile "RRULE:FREQ=DAILY;COUNT=2" ⟨Instant.ofSecond 1704067200, Zone.utc⟩ none
        true = .ok s ∧
      Moment.InOrder (HasPending.pending s.cursor.inner) ∧
      let target : ZonedTime := ⟨⟨1704067200, 500000000, by decide⟩, Zone.utc⟩
      ∃ t, (s.cursor.advanceTo target).2.next.1 = some t ∧ t.instant.Before target.instant := by
  let start : ZonedTime := ⟨Instant.ofSecond 1704067200, Zone.utc⟩
  let s := (ZonedSeries.compile "RRULE:FREQ=DAILY;COUNT=2" start none true).toOption.get
    (by decide +kernel)
  have horder : Moment.InOrder (HasPending.pending s.cursor.inner) :=
    Cursor.inOrder_pending (by decide +kernel) rfl
  refine ⟨s, by decide +kernel, horder, start, ?_, by decide⟩
  decide +kernel

end ZonedCursor

end Almanac
