import Almanac.Proofs.Zone.Placement
import Almanac.Zone.Moments

/-! From values to the clocks of zones and back. On the clock of UTC nothing is lost but the shape of
a whole day; on the clock of another zone the way back leads to the earliest second that shows the
same: `inZone_and_back`. -/

namespace Almanac

theorem Zone.clockAt_utc (n : Int) : Zone.utc.clockAt n = DateTime.ofSeconds n := by
  show DateTime.ofSeconds (n + 0) = _
  rw [Int.add_zero]

namespace Moment

theorem timed_timeline_eq_iff {v : Moment} : timed v.timeline = v ↔ v.isWholeDay = false := by
  cases v with
  | wholeDay d => simp [isWholeDay]
  | timed t => simp [isWholeDay, timeline]

theorem wholeDay_date_eq_iff {v : Moment} : wholeDay v.date = v ↔ v.isWholeDay = true := by
  cases v with
  | wholeDay d => simp [isWholeDay, date]
  | timed t => simp [isWholeDay]

theorem moment_inZone_utc (v : Moment) (z : Zone) :
    (v.inZone z).moment Zone.utc = timed v.timeline := by
  show timed (Zone.utc.clockAt v.second) = _
  rw [Zone.clockAt_utc, second, DateTime.ofSeconds_toSeconds]

theorem ofSecond_eq_toInstant_iff {v : Moment} {m : Int} :
    Instant.ofSecond m = v.toInstant ↔ m = v.second :=
  ⟨congrArg Instant.second, congrArg Instant.ofSecond⟩

/-- A value is the same instant on every clock, and read off the clock of UTC it is the second at
which it stands, hence the value itself unless that is a whole day. Read off the clock of its zone it
is what that clock shows, and placing this leads to the earliest second that shows it, which is the
value's own just if no earlier one does. Cut to its day and made a value again it is the same just if
it was a whole day. -/
theorem inZone_and_back (v : Moment) (z : Zone) :
    (v.inZone z).instant = v.inUtc.instant ∧
    (v.inZone z).moment Zone.utc = timed v.timeline ∧ v.inUtc.moment Zone.utc = timed v.timeline ∧
    (timed v.timeline = v ↔ v.isWholeDay = false) ∧
    (v.inZone z).moment z = timed (v.inZone z).clock ∧
    (∃ m, z.place (v.inZone z).clock = .ok (Instant.ofSecond m) ∧ z.IsEarliest m v.second ∧
      (Instant.ofSecond m = v.toInstant ↔
        ∀ n, n < v.second → z.clockAt n ≠ (v.inZone z).clock)) ∧
    (wholeDay v.date = v ↔ v.isWholeDay = true) := by
  refine ⟨rfl, v.moment_inZone_utc z, v.moment_inZone_utc Zone.utc, timed_timeline_eq_iff, rfl,
    ?placed, wholeDay_date_eq_iff⟩
  obtain ⟨m, hplace, hearliest⟩ := z.place_clockAt v.second
  exact ⟨m, hplace, hearliest, ofSecond_eq_toInstant_iff.trans hearliest.eq_iff⟩

/-- What the clock shows half an hour after it went back, it showed half an hour before, too. -/
example :
    (Zone.saoTome.place ((ofSecond 1546306200 false).inZone Zone.saoTome).clock).toOption =
      some (Instant.ofSecond 1546302600) := by
  decide +kernel

end Moment

end Almanac
