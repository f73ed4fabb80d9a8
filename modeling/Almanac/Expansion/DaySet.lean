import Almanac.Expansion.Step
import Almanac.Expansion.WeekNumber

/-!
The days of a period on which a rule has occurrences. Every filter of the rule has to let a day
through; a filter that is not there lets all days through.
-/

namespace Almanac.Expansion

def monthStart (d : Date) : Int :=
  d.dayNumber - (d.day - 1 : Nat)

def daysOfPeriod (r : Rule) (date : Date) : List Date :=
  match r.frequency with
  | .yearly =>
    (List.range (yearLength date.year)).map fun k =>
      Date.ofDayNumber (Date.yearStart date.year + Int.ofNat k)
  | .monthly =>
    (List.range (daysInMonth date.year date.month)).map fun k =>
      Date.ofDayNumber (monthStart date + Int.ofNat k)
  | .weekly =>
    let left := date.weekday.daysUntil r.weekStart
    (List.range (if left = 0 then 7 else left)).map fun k => date.addDays (Int.ofNat k)
  | .daily | .hourly | .minutely | .secondly => [date]

def inMonths (months : List Int) (d : Date) : Bool :=
  months.isEmpty || months.contains (Int.ofNat d.month)

def inMonthDays (fromStart fromEnd : List Int) (d : Date) : Bool :=
  (fromStart.isEmpty && fromEnd.isEmpty)
    || fromStart.contains (Int.ofNat d.day)
    || fromEnd.contains (Int.ofNat d.day - Int.ofNat (daysInMonth d.year d.month) - 1)

def inYearDays (yearDays : List Int) (d : Date) : Bool :=
  yearDays.isEmpty
    || yearDays.contains (Int.ofNat d.ordinal + 1)
    || yearDays.contains (Int.ofNat d.ordinal - Int.ofNat (yearLength d.year))

def isEvery (d : Date) : WeekdayChoice → Bool
  | .every day => day == d.weekday
  | .nth .. => false

def isPlain : WeekdayChoice → Bool
  | .every _ => true
  | .nth .. => false

def isInPlace (d : Date) (before after : Nat) : WeekdayChoice → Bool
  | .every _ => false
  | .nth n day =>
    day == d.weekday && (n == Int.ofNat (before / 7) + 1 || n == -(Int.ofNat (after / 7) + 1))

/-- Days before and after this one in the span in which places are counted: the month, or the year
for a yearly rule without months. -/
def placeSpan (r : Rule) (d : Date) : Nat × Nat :=
  if r.frequency = .yearly && r.months.isEmpty then
    (d.ordinal, yearLength d.year - 1 - d.ordinal)
  else (d.day - 1, daysInMonth d.year d.month - d.day)

/-- Plain weekdays and weekdays with a place have to agree; places count in yearly and monthly rules
alone. -/
def inWeekdays (r : Rule) (d : Date) : Bool :=
  let (plain, placed) := r.weekdays.partition isPlain
  let (before, after) := placeSpan r d
  (plain.isEmpty || plain.any (isEvery d))
    && (placed.isEmpty || (r.frequency ≠ .yearly && r.frequency ≠ .monthly)
      || placed.any (isInPlace d before after))

def daySet (r : Rule) (date : Date) : List Date :=
  let inWeek := inWeeks r.weekStart date.year r.weekNumbers
  (daysOfPeriod r date).filter fun d =>
    inMonths r.months d
      && (r.weekNumbers.isEmpty || inWeek d.ordinal)
      && inWeekdays r d
      && inMonthDays r.monthDays r.monthDaysFromEnd d
      && inYearDays r.yearDays d

end Almanac.Expansion
