import Almanac.Proofs.Calendar.Months

/-! Periods follow one another. Where a period of a rule begins and ends is counted in wall seconds,
and the next one does not begin before the end of the one at hand: `periodEnd_le`. -/

namespace Almanac.Expansion

namespace Counter

structure InDay (c : Counter) : Prop where
  hour : c.hour < 24
  minute : c.minute < 60
  second : c.second < 60

def hours (c : Counter) : Int :=
  24 * c.date.dayNumber + c.hour

def minutes (c : Counter) : Int :=
  60 * c.hours + c.minute

def seconds (c : Counter) : Int :=
  60 * c.minutes + c.second

theorem inDay_ofDateTime (t : DateTime) : (ofDateTime t).InDay :=
  ⟨t.time.hour_lt, t.time.minute_lt, t.time.second_lt⟩

end Counter

theorem eq_of_moveTo {date : Date} {c c' : Counter} (h : moveTo date c = some c') :
    c' = { c with date } := by
  unfold moveTo at h
  split at h
  · simp at h
  · exact (Option.some.inj h).symm

theorem dayNumber_addDays {n : Int} {c c' : Counter} (h : addDays n c = some c') :
    c'.date.dayNumber = c.date.dayNumber + n := by
  rw [eq_of_moveTo h]
  exact Date.dayNumber_ofDayNumber _

theorem exists_of_seek {move : Counter → Option Counter} {accept : Counter → Bool}
    {Through : Counter → Prop} (hmove : ∀ x y, Through x → move x = some y → Through y)
    {tries : Nat} {c c' : Counter} (h : seek move accept tries c = some c') (hc : Through c) :
    ∃ x, Through x ∧ move x = some c' := by
  induction tries generalizing c with
  | zero => simp [seek] at h
  | succ tries ih =>
    unfold seek at h
    split at h
    · simp at h
    · next x hx =>
      split at h
      · exact ⟨c, hc, hx.trans h⟩
      · exact ih h (hmove c x hc hx)

section Clock

variable {r : Rule} {dayIsEmpty : Bool} {interval : Nat} {c c' : Counter}

theorem moveHours_spec (h : moveHours interval c = some c') :
    c'.hours = c.hours + interval ∧ c'.hour < 24 ∧ c'.minute = c.minute ∧ c'.second = c.second := by
  unfold moveHours at h
  dsimp only at h
  split at h
  · next hday =>
    obtain rfl := Option.some.inj h
    refine ⟨?_, hday, rfl, rfl⟩
    simp only [Counter.hours]
    omega
  · have hdate := dayNumber_addDays h
    obtain rfl := eq_of_moveTo h
    refine ⟨?_, Nat.mod_lt _ (by decide), rfl, rfl⟩
    simp only [Counter.hours] at hdate ⊢
    omega

theorem nextHour_spec (h : nextHour r dayIsEmpty interval c = some c') :
    c.hours + interval ≤ c'.hours ∧ c'.hour < 24 ∧ c'.minute = c.minute ∧
      c'.second = c.second := by
  let Through (x : Counter) : Prop :=
    c.hours ≤ x.hours ∧ x.minute = c.minute ∧ x.second = c.second
  have hmove (x y : Counter) (hx : Through x) (hxy : moveHours interval x = some y) :
      Through y := by
    obtain ⟨hhours, -, hminute, hsecond⟩ := moveHours_spec hxy
    exact ⟨by have := hx.1; omega, hminute.trans hx.2.1, hsecond.trans hx.2.2⟩
  obtain ⟨x, ⟨hle, hminute, hsecond⟩, hx⟩ := exists_of_seek hmove h
    ⟨by simp only [Counter.hours]; omega, rfl, rfl⟩
  obtain ⟨hhours, hday, hminute', hsecond'⟩ := moveHours_spec hx
  exact ⟨by omega, hday, hminute'.trans hminute, hsecond'.trans hsecond⟩

theorem moveMinutes_spec (h : moveMinutes r dayIsEmpty interval c = some c') :
    c.minutes + interval ≤ c'.minutes ∧ (c.hour < 24 → c'.hour < 24) ∧ c'.minute < 60 ∧
      c'.second = c.second := by
  unfold moveMinutes at h
  dsimp only at h
  split at h
  · next hhour =>
    obtain rfl := Option.some.inj h
    refine ⟨?_, id, hhour, rfl⟩
    simp only [Counter.minutes, Counter.hours]
    omega
  · -- the minutes that are carried over move the hour
    obtain ⟨hhours, hday, hminute, hsecond⟩ := nextHour_spec h
    have hrest : c'.minute = (c.minute + interval) % 60 := hminute
    refine ⟨?_, fun _ => hday, by omega, hsecond⟩
    simp only [Counter.minutes, Counter.hours] at hhours ⊢
    omega

theorem nextMinute_spec (h : nextMinute r dayIsEmpty interval c = some c') (hc : c.hour < 24) :
    c.minutes + interval ≤ c'.minutes ∧ c'.hour < 24 ∧ c'.minute < 60 ∧
      c'.second = c.second := by
  let Through (x : Counter) : Prop :=
    c.minutes ≤ x.minutes ∧ x.hour < 24 ∧ x.second = c.second
  have hmove (x y : Counter) (hx : Through x)
      (hxy : moveMinutes r dayIsEmpty interval x = some y) : Through y := by
    obtain ⟨hminutes, hday, -, hsecond⟩ := moveMinutes_spec hxy
    exact ⟨by have := hx.1; omega, hday hx.2.1, hsecond.trans hx.2.2⟩
  obtain ⟨x, ⟨hle, hx₁, hx₂⟩, hx⟩ := exists_of_seek hmove h
    ⟨by simp only [Counter.minutes, Counter.hours]; omega, hc, rfl⟩
  obtain ⟨hminutes, hday, hhour, hsecond⟩ := moveMinutes_spec hx
  exact ⟨by omega, hday hx₁, hhour, hsecond.trans hx₂⟩

theorem moveSeconds_spec (h : moveSeconds r dayIsEmpty interval c = some c') (hc : c.hour < 24) :
    c.seconds + interval ≤ c'.seconds ∧ c'.hour < 24 ∧ (c.minute < 60 → c'.minute < 60) ∧
      c'.second < 60 := by
  unfold moveSeconds at h
  dsimp only at h
  split at h
  · next hminute =>
    obtain rfl := Option.some.inj h
    refine ⟨?_, hc, id, hminute⟩
    simp only [Counter.seconds, Counter.minutes, Counter.hours]
    omega
  · obtain ⟨hminutes, hday, hhour, hsecond⟩ := nextMinute_spec h hc
    have hrest : c'.second = (c.second + interval) % 60 := hsecond
    refine ⟨?_, hday, fun _ => hhour, by omega⟩
    simp only [Counter.seconds, Counter.minutes, Counter.hours] at hminutes ⊢
    omega

theorem nextSecond_spec (h : nextSecond r dayIsEmpty interval c = some c') (hc : c.InDay) :
    c.seconds + interval ≤ c'.seconds ∧ c'.InDay := by
  let Through (x : Counter) : Prop := c.seconds ≤ x.seconds ∧ x.hour < 24 ∧ x.minute < 60
  have hmove (x y : Counter) (hx : Through x)
      (hxy : moveSeconds r dayIsEmpty interval x = some y) : Through y := by
    obtain ⟨hseconds, hday, hhour, -⟩ := moveSeconds_spec hxy hx.2.1
    exact ⟨by have := hx.1; omega, hday, hhour hx.2.2⟩
  obtain ⟨x, ⟨hle, hx₁, hx₂⟩, hx⟩ := exists_of_seek hmove h
    ⟨by simp only [Counter.seconds, Counter.minutes, Counter.hours]; omega, hc.hour, hc.minute⟩
  obtain ⟨hseconds, hday, hhour, hminute⟩ := moveSeconds_spec hx hx₁
  exact ⟨by omega, hday, hhour hx₂, hminute⟩

end Clock

def firstDay (r : Rule) (date : Date) : Int :=
  match r.frequency with
  | .yearly => Date.yearStart date.year
  | .monthly => monthStart date
  | _ => date.dayNumber

def periodDays (r : Rule) (date : Date) : Nat :=
  match r.frequency with
  | .yearly => yearLength date.year
  | .monthly => daysInMonth date.year date.month
  | .weekly =>
    if date.weekday.daysUntil r.weekStart = 0 then 7 else date.weekday.daysUntil r.weekStart
  | _ => 1

/-- The wall second, counted from the start of 1970, at which the period at a counter begins. -/
def periodStart (r : Rule) (c : Counter) : Int :=
  match r.frequency with
  | .hourly => 3600 * c.hours
  | .minutely => 60 * c.minutes
  | .secondly => c.seconds
  | _ => 86400 * firstDay r c.date

def periodEnd (r : Rule) (c : Counter) : Int :=
  periodStart r c +
    match r.frequency with
    | .hourly => 3600
    | .minutely => 60
    | .secondly => 1
    | _ => 86400 * periodDays r c.date

theorem periodEnd_le_yearly {n : Nat} {c c' : Counter} (hn : 0 < n)
    (h : addYears n c = some c') :
    Date.yearStart c.date.year + yearLength c.date.year ≤ Date.yearStart c'.date.year := by
  have hyear : c'.date.year = c.date.year + n := by
    obtain ⟨h₁, h₂, -⟩ := c.date.isDay
    rw [eq_of_moveTo h, firstOfMonth_eq]
    show c.date.year + (((c.date.month - 1 + 12 * n) / 12 : Nat) : Int) = _
    omega
  rw [hyear]
  exact Date.yearStart_of_lt (by omega)

theorem periodEnd_le_monthly {n : Nat} {c c' : Counter} (hn : 0 < n)
    (h : addMonths n c = some c') :
    monthStart c.date + daysInMonth c.date.year c.date.month ≤ monthStart c'.date := by
  have hmoved : c'.date = firstOfMonth c.date n := by
    unfold addMonths at h
    split at h
    · simp at h
    · rw [eq_of_moveTo h]
  obtain ⟨h₁, h₂, -⟩ := c.date.isDay
  have hlength : monthLength c.date.year (c.date.month - 1) =
      daysInMonth c.date.year c.date.month := by
    have hyear : (c.date.month - 1) / 12 = 0 := by omega
    have hmonth : (c.date.month - 1) % 12 + 1 = c.date.month := by omega
    rw [monthLength, hyear, hmonth, Int.natCast_zero, Int.add_zero]
  rw [hmoved, monthStart_firstOfMonth, monthStart_eq, ← hlength]
  exact monthFirstDay_of_lt _ (by omega)

theorem periodEnd_le_weekly {r : Rule} {n : Nat} {c c' : Counter} (hn : 0 < n)
    (hr : r.frequency = .weekly) (h : addWeeks r.weekStart n c = some c') :
    c.date.dayNumber + periodDays r c.date ≤ c'.date.dayNumber := by
  rw [dayNumber_addDays h]
  -- the first week may be a short one, from the start of the series to the next start of a week
  have hback := Weekday.index_lt r.weekStart
  have hday := Weekday.index_lt c.date.weekday
  by_cases hsame : c.date.weekday.daysUntil r.weekStart = 0
  · simp only [periodDays, hr, if_pos hsame]
    simp only [Weekday.daysUntil] at hsame ⊢
    omega
  · simp only [periodDays, hr, if_neg hsame]
    simp only [Weekday.daysUntil] at hsame ⊢
    omega

theorem periodEnd_le {r : Rule} {dayIsEmpty : Bool} {c c' : Counter} (hr : 0 < r.interval)
    (hc : c.InDay) (h : nextPeriod r dayIsEmpty c = some c') :
    periodEnd r c ≤ periodStart r c' ∧ c'.InDay := by
  have hmoved {date : Date} (h : moveTo date c = some c') : c'.InDay := by
    rw [eq_of_moveTo h]
    exact ⟨hc.hour, hc.minute, hc.second⟩
  unfold nextPeriod at h
  cases hf : r.frequency with
  | yearly =>
    simp only [hf] at h
    have hle := periodEnd_le_yearly hr h
    exact ⟨by simp only [periodEnd, periodStart, firstDay, periodDays, hf]; omega, hmoved h⟩
  | monthly =>
    simp only [hf] at h
    have hle := periodEnd_le_monthly hr h
    refine ⟨by simp only [periodEnd, periodStart, firstDay, periodDays, hf]; omega, ?_⟩
    unfold addMonths at h
    split at h
    · simp at h
    · exact hmoved h
  | weekly =>
    simp only [hf] at h
    have hle := periodEnd_le_weekly hr hf h
    exact ⟨by simp only [periodEnd, periodStart, firstDay, hf]; omega, hmoved h⟩
  | daily =>
    simp only [hf] at h
    have hle := dayNumber_addDays h
    exact ⟨by simp only [periodEnd, periodStart, firstDay, periodDays, hf]; omega, hmoved h⟩
  | hourly =>
    simp only [hf] at h
    obtain ⟨hle, hday, hminute, hsecond⟩ := nextHour_spec h
    exact ⟨by simp only [periodEnd, periodStart, hf]; omega,
      hday, hminute ▸ hc.minute, hsecond ▸ hc.second⟩
  | minutely =>
    simp only [hf] at h
    obtain ⟨hle, hday, hhour, hsecond⟩ := nextMinute_spec h hc.hour
    exact ⟨by simp only [periodEnd, periodStart, hf]; omega, hday, hhour, hsecond ▸ hc.second⟩
  | secondly =>
    simp only [hf] at h
    obtain ⟨hle, hday⟩ := nextSecond_spec h hc
    exact ⟨by simp only [periodEnd, periodStart, hf]; omega, hday⟩

end Almanac.Expansion
