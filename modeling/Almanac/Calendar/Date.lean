/-!
The Gregorian calendar, extended without end in both directions. A day is a year, a month and a day
of the month that exist together; days are also numbered, day 0 being 1 January 1970.
Main statements: `dayNumber_ofDayNumber` and `ofDayNumber_dayNumber`, which say that the two
descriptions match one for one.
-/

namespace Almanac

def isLeapYear (year : Int) : Bool :=
  year % 4 == 0 && (year % 100 != 0 || year % 400 == 0)

def leapDays (year : Int) : Nat :=
  if isLeapYear year then 1 else 0

def yearLength (year : Int) : Nat :=
  365 + leapDays year

def daysInMonth (year : Int) : Nat → Nat
  | 2 => 28 + leapDays year
  | 4 | 6 | 9 | 11 => 30
  | _ => 31

def daysBeforeMonth (year : Int) (month : Nat) : Nat :=
  match month with
  | 0 | 1 => 0
  | 2 => 31
  | 3 => 59 + leapDays year
  | 4 => 90 + leapDays year
  | 5 => 120 + leapDays year
  | 6 => 151 + leapDays year
  | 7 => 181 + leapDays year
  | 8 => 212 + leapDays year
  | 9 => 243 + leapDays year
  | 10 => 273 + leapDays year
  | 11 => 304 + leapDays year
  | _ => 334 + leapDays year

def monthOfOrdinal (year : Int) (ordinal : Nat) : Nat :=
  let l := leapDays year
  if ordinal < 31 then 1
  else if ordinal < 59 + l then 2
  else if ordinal < 90 + l then 3
  else if ordinal < 120 + l then 4
  else if ordinal < 151 + l then 5
  else if ordinal < 181 + l then 6
  else if ordinal < 212 + l then 7
  else if ordinal < 243 + l then 8
  else if ordinal < 273 + l then 9
  else if ordinal < 304 + l then 10
  else if ordinal < 334 + l then 11
  else 12

def IsDay (year : Int) (month day : Nat) : Prop :=
  1 ≤ month ∧ month ≤ 12 ∧ 1 ≤ day ∧ day ≤ daysInMonth year month

instance (year : Int) (month day : Nat) : Decidable (IsDay year month day) :=
  inferInstanceAs (Decidable (_ ∧ _ ∧ _ ∧ _))

@[ext]
structure Date where
  year : Int
  month : Nat
  day : Nat
  isDay : IsDay year month day
deriving DecidableEq

theorem leapDays_le (year : Int) : leapDays year ≤ 1 := by
  unfold leapDays
  split <;> simp

theorem isDay_of_ordinal {year : Int} {n : Nat} (h : n < yearLength year) :
    IsDay year (monthOfOrdinal year n) (n - daysBeforeMonth year (monthOfOrdinal year n) + 1) := by
  have hl := leapDays_le year
  unfold yearLength at h
  unfold monthOfOrdinal IsDay
  dsimp only
  repeat' split
  all_goals simp only [daysBeforeMonth, daysInMonth]; omega

namespace Date

def ofFields? (year : Int) (month day : Nat) : Option Date :=
  if h : IsDay year month day then
    if -262143 ≤ year ∧ year ≤ 262142 then some ⟨year, month, day, h⟩ else none
  else none

def ordinal (d : Date) : Nat :=
  daysBeforeMonth d.year d.month + (d.day - 1)

def ofOrdinal (year : Int) (n : Nat) (h : n < yearLength year) : Date :=
  ⟨year, monthOfOrdinal year n, n - daysBeforeMonth year (monthOfOrdinal year n) + 1,
    isDay_of_ordinal h⟩

def yearStart (year : Int) : Int :=
  let z := year - 1
  365 * z + z / 4 - z / 100 + z / 400 - 719162

def dayNumber (d : Date) : Int :=
  yearStart d.year + d.ordinal

/-- The year that holds a day number. Cycles of 400, 100, 4 and 1 years are taken off in turn; the
last day of a long cycle belongs to its last shorter one. -/
def yearOfDayNumber (n : Int) : Int :=
  let r := n + 719162
  let r₄₀₀ := r % 146097
  let c := min (r₄₀₀ / 36524) 3
  let r₁₀₀ := r₄₀₀ - 36524 * c
  let r₄ := r₁₀₀ % 1461
  400 * (r / 146097) + 100 * c + 4 * (r₁₀₀ / 1461) + min (r₄ / 365) 3 + 1

theorem leapDays_of_cycle {q c f y : Int} (hc : 0 ≤ c ∧ c ≤ 3) (hf : 0 ≤ f ∧ f ≤ 24)
    (hy : 0 ≤ y ∧ y ≤ 3) :
    leapDays (400 * q + 100 * c + 4 * f + y + 1)
      = if y = 3 ∧ (f ≠ 24 ∨ c = 3) then 1 else 0 := by
  have key : isLeapYear (400 * q + 100 * c + 4 * f + y + 1)
      = decide (y = 3 ∧ (f ≠ 24 ∨ c = 3)) := by
    rw [Bool.eq_iff_iff]
    simp only [isLeapYear, Bool.and_eq_true, Bool.or_eq_true, beq_iff_eq, bne_iff_ne, ne_eq,
      decide_eq_true_eq]
    omega
  unfold leapDays
  rw [key]
  simp

theorem yearStart_of_cycle {q c f y : Int} (hc : 0 ≤ c ∧ c ≤ 3) (hf : 0 ≤ f ∧ f ≤ 24)
    (hy : 0 ≤ y ∧ y ≤ 3) :
    yearStart (400 * q + 100 * c + 4 * f + y + 1)
      = 146097 * q + 36524 * c + 1461 * f + 365 * y - 719162 := by
  unfold yearStart
  dsimp only
  omega

theorem yearStart_succ (z : Int) : yearStart z + yearLength z = yearStart (z + 1) := by
  obtain ⟨q, c, f, y, bc, bf, hy, rfl⟩ : ∃ q c f y : Int, (0 ≤ c ∧ c ≤ 3) ∧ (0 ≤ f ∧ f ≤ 24)
      ∧ (0 ≤ y ∧ y ≤ 3) ∧ z = 400 * q + 100 * c + 4 * f + y + 1 :=
    ⟨(z - 1) / 400, (z - 1) % 400 / 100, (z - 1) % 100 / 4, (z - 1) % 4,
      by omega, by omega, by omega, by omega⟩
  rw [yearLength, leapDays_of_cycle bc bf hy, yearStart_of_cycle bc bf hy]
  unfold yearStart
  dsimp only
  by_cases h : y = 3 ∧ (f ≠ 24 ∨ c = 3)
  · rw [if_pos h]
    omega
  · rw [if_neg h]
    omega

theorem yearOfDayNumber_bounds (n : Int) :
    yearStart (yearOfDayNumber n) ≤ n
      ∧ n < yearStart (yearOfDayNumber n) + yearLength (yearOfDayNumber n) := by
  obtain ⟨q, hq⟩ : ∃ q, q = (n + 719162) / 146097 := ⟨_, rfl⟩
  obtain ⟨r, hr⟩ : ∃ r, r = (n + 719162) % 146097 := ⟨_, rfl⟩
  obtain ⟨c, hc⟩ : ∃ c, c = min (r / 36524) 3 := ⟨_, rfl⟩
  obtain ⟨f, hf⟩ : ∃ f, f = (r - 36524 * c) / 1461 := ⟨_, rfl⟩
  obtain ⟨y, hy⟩ : ∃ y, y = min ((r - 36524 * c) % 1461 / 365) 3 := ⟨_, rfl⟩
  have hyear : yearOfDayNumber n = 400 * q + 100 * c + 4 * f + y + 1 := by
    simp [yearOfDayNumber, hq, hr, hc, hf, hy]
  have bc : 0 ≤ c ∧ c ≤ 3 := by omega
  have bf : 0 ≤ f ∧ f ≤ 24 := by omega
  have by' : 0 ≤ y ∧ y ≤ 3 := by omega
  have hl := leapDays_of_cycle (q := q) bc bf by'
  rw [hyear, yearStart_of_cycle bc bf by']
  unfold yearLength
  rw [hl]
  split <;> omega

def ofDayNumber (n : Int) : Date :=
  ofOrdinal (yearOfDayNumber n) (n - yearStart (yearOfDayNumber n)).toNat (by
    have := yearOfDayNumber_bounds n
    omega)

theorem ordinal_ofOrdinal {year : Int} {n : Nat} (h : n < yearLength year) :
    (ofOrdinal year n h).ordinal = n := by
  have hl := leapDays_le year
  have hle : daysBeforeMonth year (monthOfOrdinal year n) ≤ n := by
    unfold yearLength at h
    unfold monthOfOrdinal
    dsimp only
    repeat' split
    all_goals simp only [daysBeforeMonth]; omega
  simp only [ordinal, ofOrdinal]
  omega

theorem ordinal_lt (d : Date) : d.ordinal < yearLength d.year := by
  obtain ⟨year, month, day, h1, h2, h3, h4⟩ := d
  have hl := leapDays_le year
  simp only [ordinal, yearLength]
  have : month = 1 ∨ month = 2 ∨ month = 3 ∨ month = 4 ∨ month = 5 ∨ month = 6 ∨ month = 7
      ∨ month = 8 ∨ month = 9 ∨ month = 10 ∨ month = 11 ∨ month = 12 := by omega
  rcases this with h | h | h | h | h | h | h | h | h | h | h | h <;> subst h <;>
    simp only [daysBeforeMonth, daysInMonth] at * <;> omega

theorem monthOfOrdinal_eq {year : Int} {month day : Nat} (h : IsDay year month day) :
    monthOfOrdinal year (daysBeforeMonth year month + (day - 1)) = month := by
  obtain ⟨h1, h2, h3, h4⟩ := h
  have hl := leapDays_le year
  have hm : month = 1 ∨ month = 2 ∨ month = 3 ∨ month = 4 ∨ month = 5 ∨ month = 6 ∨ month = 7
      ∨ month = 8 ∨ month = 9 ∨ month = 10 ∨ month = 11 ∨ month = 12 := by omega
  rcases hm with rfl | rfl | rfl | rfl | rfl | rfl | rfl | rfl | rfl | rfl | rfl | rfl
  all_goals
    simp only [daysInMonth] at h4
    simp only [monthOfOrdinal, daysBeforeMonth]
    repeat rw [if_neg (by omega)]
    try rw [if_pos (by omega)]

theorem ofOrdinal_ordinal (d : Date) : ofOrdinal d.year d.ordinal d.ordinal_lt = d := by
  have h := monthOfOrdinal_eq d.isDay
  have h3 := d.isDay.2.2.1
  refine Date.ext rfl h ?_
  simp only [ofOrdinal, ordinal, h]
  omega

@[simp] theorem dayNumber_ofDayNumber (n : Int) : (ofDayNumber n).dayNumber = n := by
  have := yearOfDayNumber_bounds n
  unfold dayNumber ofDayNumber
  rw [ordinal_ofOrdinal]
  simp only [ofOrdinal]
  omega

theorem yearOfDayNumber_eq {n year : Int} (h₁ : yearStart year ≤ n)
    (h₂ : n < yearStart year + yearLength year) : yearOfDayNumber n = year := by
  have hb := yearOfDayNumber_bounds n
  generalize yearOfDayNumber n = y at hb
  have mono (z : Int) (k : Nat) : yearStart z ≤ yearStart (z + k) := by
    induction k with
    | zero => simp
    | succ k ih =>
      have := yearStart_succ (z + k)
      have e : z + ((k + 1 : Nat) : Int) = z + k + 1 := by omega
      rw [e]
      omega
  rcases Int.lt_trichotomy y year with h | h | h
  · have := mono (y + 1) (year - (y + 1)).toNat
    rw [show y + 1 + ((year - (y + 1)).toNat : Int) = year by omega, ← yearStart_succ] at this
    omega
  · exact h
  · have := mono (year + 1) (y - (year + 1)).toNat
    rw [show year + 1 + ((y - (year + 1)).toNat : Int) = y by omega, ← yearStart_succ] at this
    omega

@[simp] theorem ofDayNumber_dayNumber (d : Date) : ofDayNumber d.dayNumber = d := by
  have hlt := d.ordinal_lt
  have hy : yearOfDayNumber d.dayNumber = d.year :=
    yearOfDayNumber_eq (by unfold dayNumber; omega) (by unfold dayNumber; omega)
  have hn : (d.dayNumber - yearStart d.year).toNat = d.ordinal := by
    unfold dayNumber
    omega
  conv => rhs; rw [← ofOrdinal_ordinal d]
  unfold ofDayNumber
  congr 1
  rw [hy, hn]

theorem dayNumber_inj {a b : Date} (h : a.dayNumber = b.dayNumber) : a = b := by
  rw [← ofDayNumber_dayNumber a, h, ofDayNumber_dayNumber]

def addDays (d : Date) (n : Int) : Date :=
  ofDayNumber (d.dayNumber + n)

end Date

end Almanac
