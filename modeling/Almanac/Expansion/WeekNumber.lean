import Almanac.Rule.Basic

/-!
Week numbers of a year. Weeks begin on a chosen weekday, and week 1 is the first that has at least
four days in the year. Days are counted from 0, the first of January.
-/

namespace Almanac.Expansion

def firstWeekday (year : Int) : Weekday :=
  Weekday.ofIndex ((Date.yearStart year + 3) % 7).toNat

def firstWeekStart (weekStart : Weekday) (year : Int) : Nat :=
  (firstWeekday year).daysUntil weekStart

/-- The day on which week 1 begins, negative if that is in the year before. -/
def firstWeek (weekStart : Weekday) (year : Int) : Int :=
  let first := firstWeekStart weekStart year
  if 4 ≤ first then (first : Int) - 7 else first

/-- The weeks of a span of days, a rest of four days or more counting as one. -/
def weeksIn (days : Int) : Int :=
  days / 7 + days % 7 / 4

def weekCount (weekStart : Weekday) (year : Int) : Int :=
  weeksIn (yearLength year - firstWeek weekStart year)

/-- The number of the week that the first days of a year share with the year before. Its remainder is
taken from the year before if that one begins inside its own week 1, and from this year if not. -/
def precedingWeek (weekStart : Weekday) (year : Int) : Int :=
  let previous := year - 1
  let first := firstWeekStart weekStart previous
  let days : Int :=
    if 4 ≤ first then yearLength previous + 7 - first
    else yearLength year - firstWeekStart weekStart year
  52 + days % 7 / 4

/-- Whether a day of the year lies in one of the listed weeks; negative numbers count from the last
week. The first week of the next year is week 1 too. -/
def inWeeks (weekStart : Weekday) (year : Int) (weeks : List Int) : Nat → Bool :=
  let first := firstWeekStart weekStart year
  let start := firstWeek weekStart year
  let count := weekCount weekStart year
  let leading := first < 4 &&
    (weeks.contains (-1) || weeks.contains (precedingWeek weekStart year))
  fun day =>
    let week := ((day : Int) - start) / 7 + 1
    if week < 1 then leading
    else if count < week then weeks.contains 1
    else weeks.contains week || weeks.contains (week - count - 1)

end Almanac.Expansion
