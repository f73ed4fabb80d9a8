import Almanac.Cursor.Dates
import Almanac.Proofs.Cursor.Record
import Almanac.Proofs.Cursor.ZonedTimes
import Almanac.Proofs.Zone.Placement

/-! Views of one cursor, as days and as times on a clock. Of a target only its place on the timeline
counts, so that a day and the midnight with which it begins discard the same values; and how a value
is shown never finds its way back into the cursor. Views that start from one cursor and are asked the
same therefore stay in step: `views_agree`. -/

namespace Almanac

/-- Cursors for which a target is nothing but its place on the timeline. -/
class ComparesByPlace (γ : Type) [OccurrenceCursor γ] : Prop where
  advanceTo_congr {a b : Moment} (h : a.second = b.second) (c : γ) :
    OccurrenceCursor.advanceTo a c = OccurrenceCursor.advanceTo b c

namespace Moment

theorem precedes_congr {a b : Moment} (h : a.second = b.second) (m : Moment) :
    m.Precedes a ↔ m.Precedes b := by
  unfold Precedes
  rw [h]

end Moment

namespace Cursor

variable {σ : Type} [Supply σ Instant]

theorem advance_congr {a b : Moment} (h : a.second = b.second) (discarded : Nat) (c : Cursor σ) :
    advance a discarded c = advance b discarded c := by
  fun_induction advance a discarded c with
  | case1 discarded c c' hpeek => exact (advance_of_none hpeek discarded).symm
  | case2 discarded c m c' hpeek hbefore ih =>
    have hbefore' : m.Precedes b := (Moment.precedes_congr h m).1 hbefore
    rw [ih, advance_of_precedes hpeek hbefore']
  | case3 discarded c m c' hpeek hkept =>
    have hkept' : ¬m.Precedes b := fun hbefore => hkept ((Moment.precedes_congr h m).2 hbefore)
    exact (advance_of_not_precedes hpeek hkept' discarded).symm

instance : ComparesByPlace (Cursor σ) where
  advanceTo_congr h c := advance_congr h 0 c

end Cursor

instance : ComparesByPlace FixedCursor where
  advanceTo_congr {a b} h c := by
    have hsame : (fun m : Moment => decide (m.Precedes a)) = fun m => decide (m.Precedes b) := by
      funext m
      exact decide_eq_decide.2 (Moment.precedes_congr h m)
    simp only [OccurrenceCursor.advanceTo, hsame]

namespace ZonedTime

def utcDay (t : ZonedTime) : Date :=
  (Zone.utc.clockAt t.instant.second).date

end ZonedTime

/-- What can be asked of a view. As a target, a view of days is given the day itself and a view of
times the midnight in UTC with which the day begins, on the clock of some zone. -/
inductive ViewCall
  | hasNext
  | next
  | tryNext
  | advanceTo (day : Date) (zone : Zone)

variable {γ : Type} [OccurrenceCursor γ]

namespace DateCursor

def call (c : DateCursor γ) : ViewCall → DateCursor γ
  | .hasNext => c.hasNext.2
  | .next => c.next.2
  | .tryNext => c.tryNext.2
  | .advanceTo day _ => (c.advanceTo day).2

theorem tryNext_eq (c : DateCursor γ) :
    c.tryNext = (c.next.1.elim (.error .exhausted) .ok, c.next.2) := by
  rcases h : c.next with ⟨- | d, c'⟩
  · simp only [tryNext, h, Option.elim_none]
  · simp only [tryNext, h, Option.elim_some]

end DateCursor

namespace ZonedCursor

def call (c : ZonedCursor γ) : ViewCall → ZonedCursor γ
  | .hasNext => c.hasNext.2
  | .next => c.next.2
  | .tryNext => c.tryNext.2
  | .advanceTo day zone => (c.advanceTo ((Moment.wholeDay day).inZone zone)).2

theorem tryNext_eq (c : ZonedCursor γ) :
    c.tryNext = (c.next.1.elim (.error .exhausted) .ok, c.next.2) := by
  rcases h : c.next with ⟨- | t, c'⟩
  · simp only [tryNext, h, Option.elim_none]
  · simp only [tryNext, h, Option.elim_some]

theorem utcDay_shown {γ : Type} (c : ZonedCursor γ) (m : Moment) :
    (c.shown m).utcDay = m.date := by
  have hclock : Zone.utc.clockAt m.second = m.timeline := by
    show DateTime.ofSeconds (m.timeline.toSeconds + 0) = m.timeline
    rw [Int.add_zero, DateTime.ofSeconds_toSeconds]
  have hday : m.timeline.date = m.date := by
    cases m with
    | wholeDay d => rfl
    | timed t => rfl
  rw [ZonedTime.utcDay, c.instant_shown, ← hday, ← hclock]
  rfl

end ZonedCursor

theorem second_inZone (day : Date) (zone : Zone) :
    (((Moment.wholeDay day).inZone zone).moment Zone.utc).second = (Moment.wholeDay day).second :=
  ZonedTime.second_moment _

section Step

variable [ComparesByPlace γ] {d : DateCursor γ} {z : ZonedCursor γ}

theorem inner_call (h : z.inner = d.inner) (call : ViewCall) :
    (z.call call).inner = (d.call call).inner := by
  cases call with
  | hasNext =>
    show (OccurrenceCursor.hasNext z.inner).2 = (OccurrenceCursor.hasNext d.inner).2
    rw [h]
  | next =>
    show (OccurrenceCursor.next z.inner).2 = (OccurrenceCursor.next d.inner).2
    rw [h]
  | tryNext =>
    rw [ZonedCursor.call, DateCursor.call, z.tryNext_eq, d.tryNext_eq]
    show (OccurrenceCursor.next z.inner).2 = (OccurrenceCursor.next d.inner).2
    rw [h]
  | advanceTo day zone =>
    show (OccurrenceCursor.advanceTo _ z.inner).2 = (OccurrenceCursor.advanceTo _ d.inner).2
    rw [h, ComparesByPlace.advanceTo_congr (second_inZone day zone)]

theorem inner_foldl (h : z.inner = d.inner) (calls : List ViewCall) :
    (calls.foldl ZonedCursor.call z).inner = (calls.foldl DateCursor.call d).inner := by
  induction calls generalizing z d with
  | nil => exact h
  | cons call calls ih =>
    rw [List.foldl_cons, List.foldl_cons]
    apply ih
    exact inner_call h call

end Step

section Answers

variable {d : DateCursor γ} {z : ZonedCursor γ}

theorem hasNext_eq_of_inner (h : z.inner = d.inner) : z.hasNext.1 = d.hasNext.1 := by
  show (OccurrenceCursor.hasNext z.inner).1 = (OccurrenceCursor.hasNext d.inner).1
  rw [h]

theorem utcDay_next (h : z.inner = d.inner) : z.next.1.map ZonedTime.utcDay = d.next.1 := by
  show ((OccurrenceCursor.next z.inner).1.map z.shown).map ZonedTime.utcDay =
    (OccurrenceCursor.next d.inner).1.map Moment.date
  have hshown : ZonedTime.utcDay ∘ z.shown = Moment.date := by
    funext m
    exact z.utcDay_shown m
  rw [h, Option.map_map, hshown]

theorem instant_next {z z' : ZonedCursor γ} (h : z.inner = z'.inner) :
    z.next.1.map ZonedTime.instant = z'.next.1.map ZonedTime.instant := by
  show ((OccurrenceCursor.next z.inner).1.map z.shown).map ZonedTime.instant =
    ((OccurrenceCursor.next z'.inner).1.map z'.shown).map ZonedTime.instant
  have hshown : ZonedTime.instant ∘ z.shown = ZonedTime.instant ∘ z'.shown := by
    funext m
    exact (z.instant_shown m).trans (z'.instant_shown m).symm
  rw [h, Option.map_map, Option.map_map, hshown]

theorem elim_eq_exhausted_iff {α : Type} {value? : Option α} :
    (value?.elim (.error .exhausted) .ok : Except CursorError α) = .error .exhausted ↔
      value? = none := by
  cases value? with
  | none => exact iff_of_true rfl rfl
  | some a => simp

theorem tryNext_exhausted_iff (h : z.inner = d.inner) :
    z.tryNext.1 = .error .exhausted ↔ d.next.1 = none := by
  rw [z.tryNext_eq, elim_eq_exhausted_iff, ← utcDay_next h, Option.map_eq_none_iff]

end Answers

/-- A view of days and two views of times, one on the clock of UTC and one on the governing clock,
start from one cursor. After any calls they hold the same cursor, and what is asked next has answers
that agree: the days are those of the times in UTC, the times are the same instants, and all three
come to their end together. -/
theorem views_agree [ComparesByPlace γ] (c : γ) (governing : Zone) (calls : List ViewCall) :
    let days := calls.foldl DateCursor.call ⟨c⟩
    let utc := calls.foldl ZonedCursor.call ⟨c, governing, .utc⟩
    let clock := calls.foldl ZonedCursor.call ⟨c, governing, .governing⟩
    (utc.inner = days.inner ∧ clock.inner = days.inner) ∧
      (utc.hasNext.1 = days.hasNext.1 ∧ clock.hasNext.1 = days.hasNext.1) ∧
      (utc.next.1.map ZonedTime.utcDay = days.next.1 ∧
        utc.next.1.map ZonedTime.instant = clock.next.1.map ZonedTime.instant) ∧
      (days.tryNext.1 = days.next.1.elim (.error .exhausted) .ok ∧
        utc.tryNext.1 = utc.next.1.elim (.error .exhausted) .ok ∧
        clock.tryNext.1 = clock.next.1.elim (.error .exhausted) .ok) ∧
      ((days.tryNext.1 = .error .exhausted ↔ days.next.1 = none) ∧
        (utc.tryNext.1 = .error .exhausted ↔ days.next.1 = none) ∧
        (clock.tryNext.1 = .error .exhausted ↔ days.next.1 = none)) := by
  intro days utc clock
  have hutc : utc.inner = days.inner := inner_foldl rfl calls
  have hclock : clock.inner = days.inner := inner_foldl rfl calls
  refine ⟨⟨hutc, hclock⟩, ?hasNext, ?next, ?tryNext, ?exhausted⟩
  case hasNext => exact ⟨hasNext_eq_of_inner hutc, hasNext_eq_of_inner hclock⟩
  case next => exact ⟨utcDay_next hutc, instant_next (hutc.trans hclock.symm)⟩
  case tryNext =>
    rw [days.tryNext_eq, utc.tryNext_eq, clock.tryNext_eq]
    exact ⟨rfl, rfl, rfl⟩
  case exhausted =>
    refine ⟨?_, tryNext_exhausted_iff hutc, tryNext_exhausted_iff hclock⟩
    rw [days.tryNext_eq, elim_eq_exhausted_iff]

/-- Half an hour before midnight in UTC the governing clock is in the next day already, and the view
of days stays with the day in UTC. -/
theorem views_agree_past_midnight :
    let c : Cursor (List Instant) := Cursor.ofSource
      ([1514764800, 1514849400].map Instant.ofSecond) false [.ofSecond 1514764800]
    let newYear : Date := ⟨2018, 1, 1, by decide⟩
    let calls := [ViewCall.hasNext, .next, .advanceTo newYear Zone.saoTome]
    let days := calls.foldl DateCursor.call ⟨c⟩
    let utc := calls.foldl ZonedCursor.call ⟨c, Zone.saoTome, .utc⟩
    let clock := calls.foldl ZonedCursor.call ⟨c, Zone.saoTome, .governing⟩
    days.next.1 = some newYear ∧ utc.next.1.map ZonedTime.utcDay = some newYear ∧
      utc.next.1.map ZonedTime.instant = clock.next.1.map ZonedTime.instant ∧
      (clock.next.1.map fun t => t.clock.date.day) = some 2 ∧
      clock.tryNext.1 ≠ .error .exhausted := by
  intro c newYear calls days utc clock
  obtain ⟨-, -, ⟨hday, hinstant⟩, -, -, -, hend⟩ := views_agree c Zone.saoTome calls
  have hnext : days.next.1 = some newYear := by decide +kernel
  refine ⟨hnext, hday.trans hnext, hinstant, by decide +kernel, ?_⟩
  intro hexhausted
  have hnone : days.next.1 = none := hend.1 hexhausted
  rw [hnext] at hnone
  exact absurd hnone (Option.some_ne_none newYear)

end Almanac
