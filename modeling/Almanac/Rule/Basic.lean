import Almanac.Calendar.Weekday
import Almanac.Calendar.DateTime

/-!
Recurrence rules. `RuleParts` is a rule as it is written; `Rule` is one that has been completed for a
series, so that every list that picks days or times is filled in.
-/

namespace Almanac

inductive Frequency
  | yearly | monthly | weekly | daily | hourly | minutely | secondly
deriving DecidableEq

namespace Frequency

def name : Frequency → String
  | yearly => "YEARLY"
  | monthly => "MONTHLY"
  | weekly => "WEEKLY"
  | daily => "DAILY"
  | hourly => "HOURLY"
  | minutely => "MINUTELY"
  | secondly => "SECONDLY"

def all : List Frequency := [yearly, monthly, weekly, daily, hourly, minutely, secondly]

def ofName? (name : String) : Option Frequency :=
  all.find? fun f => f.name == name

def isDailyOrLonger : Frequency → Bool
  | yearly | monthly | weekly | daily => true
  | hourly | minutely | secondly => false

def isHourlyOrLonger : Frequency → Bool
  | minutely | secondly => false
  | _ => true

end Frequency

/-- A weekday in every week, or its `n`-th place in a period, counted from the end if negative. -/
inductive WeekdayChoice
  | every (day : Weekday)
  | nth (n : Int) (day : Weekday)
deriving DecidableEq

namespace WeekdayChoice

/-- Every week first, then by place in the period, then by weekday. -/
def le : WeekdayChoice → WeekdayChoice → Bool
  | every a, every b => a.index ≤ b.index
  | every _, nth .. => true
  | nth .., every _ => false
  | nth m a, nth n b => m < n || (m == n && a.index ≤ b.index)

end WeekdayChoice

/-- The end of a rule: a UTC time, or a wall clock without a zone. -/
inductive RuleEnd
  | utc (dateTime : DateTime)
  | floating (dateTime : DateTime)
deriving DecidableEq

inductive ListPart
  | setPositions | months | monthDays | yearDays | weekNumbers | weekdays | hours | minutes | seconds
deriving DecidableEq

def ListPart.name : ListPart → String
  | setPositions => "BYSETPOS"
  | months => "BYMONTH"
  | monthDays => "BYMONTHDAY"
  | yearDays => "BYYEARDAY"
  | weekNumbers => "BYWEEKNO"
  | weekdays => "BYDAY"
  | hours => "BYHOUR"
  | minutes => "BYMINUTE"
  | seconds => "BYSECOND"

structure RuleParts where
  frequency : Frequency
  interval : Nat := 1
  count? : Option Nat := none
  ending? : Option RuleEnd := none
  weekStart : Weekday := .monday
  setPositions : List Int := []
  months : List Int := []
  monthDays : List Int := []
  yearDays : List Int := []
  weekNumbers : List Int := []
  weekdays : List WeekdayChoice := []
  hours : List Int := []
  minutes : List Int := []
  seconds : List Int := []
deriving DecidableEq

structure Rule where
  frequency : Frequency
  interval : Nat
  count? : Option Nat
  /-- The last UTC second that an occurrence may have. -/
  until? : Option Int
  weekStart : Weekday
  setPositions : List Int
  months : List Int
  monthDays : List Int
  /-- Days of the month counted back from its end, as negative numbers. -/
  monthDaysFromEnd : List Int
  yearDays : List Int
  weekNumbers : List Int
  weekdays : List WeekdayChoice
  hours : List Int
  minutes : List Int
  seconds : List Int
deriving DecidableEq

end Almanac
