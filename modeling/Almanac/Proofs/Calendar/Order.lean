import Almanac.Proofs.Calendar.Moment
import Almanac.Proofs.Calendar.Months

/-! The timeline field by field. Of two days the earlier is the one with the earlier year, month or
day of the month, of two times the one with the earlier hour, minute or second; and of two values
the one that stands earlier on the timeline, a whole day coming before the second at its midnight. -/

namespace Almanac

theorem daysBeforeMonth_of_lt (year : Int) {a b : Nat} (ha : 1 ≤ a) (hb : b ≤ 12) (h : a < b) :
    daysBeforeMonth year a + daysInMonth year a ≤ daysBeforeMonth year b := by
  induction h with
  | refl => exact Nat.le_of_eq (daysBeforeMonth_succ year ⟨ha, by omega⟩).symm
  | @step m h ih =>
    have ham : a < m + 1 := Nat.le_succ_of_le h
    rw [daysBeforeMonth_succ year ⟨by omega, by omega⟩]
    have := ih (by omega)
    omega

namespace Date

def FieldsBefore (a b : Date) : Prop :=
  a.year < b.year ∨ a.year = b.year ∧ (a.month < b.month ∨ a.month = b.month ∧ a.day < b.day)

theorem dayNumber_lt_of_fieldsBefore {a b : Date} (h : a.FieldsBefore b) :
    a.dayNumber < b.dayNumber := by
  obtain ⟨ha₁, ha₂, ha₃, ha₄⟩ := a.isDay
  obtain ⟨hb₁, hb₂, hb₃, hb₄⟩ := b.isDay
  unfold dayNumber
  rcases h with hyear | ⟨hyear, hmonth | ⟨hmonth, hday⟩⟩
  · have hover := yearStart_of_lt hyear
    have hlast := a.ordinal_lt
    omega
  · have hover := daysBeforeMonth_of_lt b.year ha₁ hb₂ hmonth
    rw [hyear] at ha₄ ⊢
    simp only [ordinal, hyear]
    omega
  · simp only [ordinal, hyear, hmonth]
    omega

theorem fieldsBefore_or (a b : Date) : a.FieldsBefore b ∨ a = b ∨ b.FieldsBefore a := by
  rw [Date.ext_iff]
  unfold FieldsBefore
  omega

theorem dayNumber_lt_iff {a b : Date} : a.dayNumber < b.dayNumber ↔ a.FieldsBefore b := by
  refine ⟨fun h => ?_, dayNumber_lt_of_fieldsBefore⟩
  rcases fieldsBefore_or a b with hbefore | rfl | hafter
  · exact hbefore
  · exact absurd h (Int.lt_irrefl _)
  · exact absurd (dayNumber_lt_of_fieldsBefore hafter) (Int.not_lt.2 (Int.le_of_lt h))

end Date

namespace TimeOfDay

theorem toSeconds_lt_iff {t u : TimeOfDay} :
    t.toSeconds < u.toSeconds ↔
      t.hour < u.hour ∨ t.hour = u.hour ∧
        (t.minute < u.minute ∨ t.minute = u.minute ∧ t.second < u.second) := by
  have := t.minute_lt
  have := t.second_lt
  have := u.minute_lt
  have := u.second_lt
  unfold toSeconds
  omega

end TimeOfDay

namespace DateTime

theorem toSeconds_lt_iff {t u : DateTime} :
    t.toSeconds < u.toSeconds ↔
      t.date.dayNumber < u.date.dayNumber ∨
        t.date = u.date ∧ t.time.toSeconds < u.time.toSeconds := by
  have hsame : t.date = u.date ↔ t.date.dayNumber = u.date.dayNumber :=
    ⟨congrArg Date.dayNumber, Date.dayNumber_inj⟩
  have := t.time.toSeconds_lt
  have := u.time.toSeconds_lt
  rw [hsame]
  unfold toSeconds
  omega

end DateTime

namespace Moment

theorem compare_eq_lt_iff {a b : Moment} :
    compare a b = .lt ↔ a.second < b.second ∨ a.second = b.second ∧ a.rank < b.rank := by
  show (compare a.second b.second).then (compare a.rank b.rank) = .lt ↔ _
  rw [Ordering.then_eq_lt, Int.compare_eq_lt, Int.compare_eq_eq, Nat.compare_eq_lt]

theorem compare_eq_gt_iff {a b : Moment} : compare a b = .gt ↔ compare b a = .lt := by
  rw [compare_eq_lt_iff]
  show (compare a.second b.second).then (compare a.rank b.rank) = .gt ↔ _
  rw [Ordering.then_eq_gt, Int.compare_eq_gt, Int.compare_eq_eq, Nat.compare_eq_gt,
    eq_comm (a := a.second)]

theorem compare_eq_eq_iff {a b : Moment} : compare a b = .eq ↔ a = b := by
  show (compare a.second b.second).then (compare a.rank b.rank) = .eq ↔ _
  rw [Ordering.then_eq_eq, Int.compare_eq_eq, Nat.compare_eq_eq]
  constructor
  · rintro ⟨hsecond, hrank⟩
    exact timeline_inj (DateTime.toSeconds_inj hsecond) hrank
  · rintro rfl
    exact ⟨rfl, rfl⟩

end Moment

end Almanac
