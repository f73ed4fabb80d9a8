import Almanac.Expansion.DaySet

/-! Years and months in a row. Each begins where the one before it ends, also when months are
counted across the end of a year. -/

namespace Almanac

namespace Date

theorem yearStart_add_le (year : Int) (n : Nat) : yearStart year ≤ yearStart (year + n) := by
  induction n with
  | zero => exact Int.le_of_eq (by rw [Int.natCast_zero, Int.add_zero])
  | succ n ih =>
    have hnext := yearStart_succ (year + n)
    rw [Int.natCast_succ, ← Int.add_assoc, ← hnext]
    omega

theorem yearStart_of_lt {a b : Int} (h : a < b) : yearStart a + yearLength a ≤ yearStart b := by
  have hle := yearStart_add_le (a + 1) (b - (a + 1)).toNat
  have hb : a + 1 + ((b - (a + 1)).toNat : Int) = b := by omega
  rw [hb, ← yearStart_succ] at hle
  exact hle

end Date

/-- The number of the first day of a month, months being counted from 0 and on into later years. -/
def monthFirstDay (year : Int) (months : Nat) : Int :=
  Date.yearStart (year + (months / 12 : Nat)) + daysBeforeMonth (year + (months / 12 : Nat))
    (months % 12 + 1)

def monthLength (year : Int) (months : Nat) : Nat :=
  daysInMonth (year + (months / 12 : Nat)) (months % 12 + 1)

theorem daysBeforeMonth_succ (year : Int) {month : Nat} (h : 1 ≤ month ∧ month ≤ 11) :
    daysBeforeMonth year (month + 1) = daysBeforeMonth year month + daysInMonth year month := by
  have hcases : month = 1 ∨ month = 2 ∨ month = 3 ∨ month = 4 ∨ month = 5 ∨ month = 6 ∨ month = 7
      ∨ month = 8 ∨ month = 9 ∨ month = 10 ∨ month = 11 := by omega
  rcases hcases with rfl | rfl | rfl | rfl | rfl | rfl | rfl | rfl | rfl | rfl | rfl <;>
    simp only [daysBeforeMonth, daysInMonth] <;> omega

theorem monthFirstDay_succ (year : Int) (months : Nat) :
    monthFirstDay year (months + 1) = monthFirstDay year months + monthLength year months := by
  by_cases hlast : months % 12 = 11
  · have hyear : (months + 1) / 12 = months / 12 + 1 := by omega
    have hmonth : (months + 1) % 12 = 0 := by omega
    have hnext := Date.yearStart_succ (year + (months / 12 : Nat))
    rw [monthFirstDay, monthFirstDay, monthLength, hyear, hmonth, hlast]
    rw [Int.natCast_succ, ← Int.add_assoc, ← hnext]
    simp only [daysBeforeMonth, daysInMonth, yearLength]
    omega
  · have hyear : (months + 1) / 12 = months / 12 := by omega
    have hmonth : (months + 1) % 12 = months % 12 + 1 := by omega
    rw [monthFirstDay, monthFirstDay, monthLength, hyear, hmonth,
      daysBeforeMonth_succ _ ⟨by omega, by omega⟩]
    omega

theorem monthFirstDay_of_lt (year : Int) {a b : Nat} (h : a < b) :
    monthFirstDay year a + monthLength year a ≤ monthFirstDay year b := by
  induction h with
  | refl => exact Int.le_of_eq (monthFirstDay_succ year a).symm
  | step _ ih =>
    rw [monthFirstDay_succ]
    omega

namespace Expansion

theorem monthStart_eq (d : Date) : monthStart d = monthFirstDay d.year (d.month - 1) := by
  obtain ⟨h₁, h₂, h₃, -⟩ := d.isDay
  have hyear : (d.month - 1) / 12 = 0 := by omega
  have hmonth : (d.month - 1) % 12 + 1 = d.month := by omega
  rw [monthStart, monthFirstDay, hyear, hmonth, Int.natCast_zero, Int.add_zero, Date.dayNumber,
    Date.ordinal]
  omega

theorem isDay_first (year : Int) (months : Nat) : IsDay year (months % 12 + 1) 1 := by
  refine ⟨by omega, by omega, Nat.le_refl 1, ?_⟩
  unfold daysInMonth
  split <;> omega

theorem firstOfMonth_eq (d : Date) (n : Nat) :
    firstOfMonth d n =
      ⟨d.year + ((d.month - 1 + n) / 12 : Nat), (d.month - 1 + n) % 12 + 1, 1,
        isDay_first _ _⟩ := by
  rw [← Date.ofDayNumber_dayNumber ⟨d.year + ((d.month - 1 + n) / 12 : Nat),
    (d.month - 1 + n) % 12 + 1, 1, isDay_first _ _⟩]
  rfl

theorem monthStart_firstOfMonth (d : Date) (n : Nat) :
    monthStart (firstOfMonth d n) = monthFirstDay d.year (d.month - 1 + n) := by
  rw [firstOfMonth_eq]
  show Date.dayNumber _ - ((1 - 1 : Nat) : Int) = _
  simp only [Date.dayNumber, Date.ordinal, monthFirstDay]
  omega

end Expansion

end Almanac
