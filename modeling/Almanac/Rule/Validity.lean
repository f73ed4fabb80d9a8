import Almanac.Rule.Error
import Almanac.Zone.Basic
import Almanac.Calendar.Written

/-!
Whether a completed rule makes sense for a series. The checks run in a fixed order and the first that
fails is reported.
-/

namespace Almanac

namespace Frequency

def positionLimit : Frequency → Int
  | yearly | daily => 366
  | monthly => 31
  | weekly => 53
  | hourly => 24
  | minutely | secondly => 60

def placeRange : Frequency → Int × Int
  | yearly | daily => (-52, 53)
  | monthly => (-4, 5)
  | weekly => (-7, 8)
  | hourly => (-3, 4)
  | minutely | secondly => (-8, 9)

end Frequency

namespace Rule

def writeInstant (zone : Zone) (n : Int) : String :=
  String.ofList ((zone.clockAt n).extended ++ writeOffset (zone.offsetAt n))

def checkEnd (r : Rule) (zone : Zone) (start : Int) : Except RuleError Unit :=
  match r.until? with
  | none => .ok ()
  | some finish =>
    if finish < start then
      .error (.endsBeforeStart (writeInstant Zone.utc finish) (writeInstant zone start))
    else .ok ()

/-- Whether the rule has set positions and no other list to take positions in. -/
def hasOnlyPositions (r : Rule) : Bool :=
  !r.setPositions.isEmpty && r.months.isEmpty && r.monthDays.isEmpty && r.yearDays.isEmpty
    && r.weekNumbers.isEmpty && r.weekdays.isEmpty && r.hours.isEmpty && r.minutes.isEmpty
    && r.seconds.isEmpty

def checkPositions (r : Rule) : Except RuleError Unit :=
  let limit := r.frequency.positionLimit
  if r.setPositions.contains 0 then .error (.zeroNotAllowed .setPositions)
  else match r.setPositions.find? fun n => n < -limit || limit < n with
    | some n => .error (.outsideRange .setPositions n r.frequency (-limit) limit)
    | none => if r.hasOnlyPositions then .error .onlyPositions else .ok ()

def checkMonthDays (r : Rule) : Except RuleError Unit :=
  if !r.monthDays.isEmpty && r.frequency = .weekly then
    .error (.notWithFrequency .monthDays r.frequency)
  else .ok ()

def checkYearDays (r : Rule) : Except RuleError Unit :=
  let f := r.frequency
  if r.yearDays.contains 0 then .error (.zeroNotAllowed .yearDays)
  else if !r.yearDays.isEmpty && (f = .monthly || f = .weekly || f = .daily) then
    .error (.notWithFrequency .yearDays f)
  else .ok ()

def checkWeekNumbers (r : Rule) : Except RuleError Unit :=
  if r.weekNumbers.contains 0 then .error (.zeroNotAllowed .weekNumbers)
  else if !r.weekNumbers.isEmpty && r.frequency ≠ .yearly then
    .error (.notWithFrequency .weekNumbers r.frequency)
  else .ok ()

/-- The first weekday whose place is outside the range of the frequency. -/
def checkPlaces (f : Frequency) : List WeekdayChoice → Except RuleError Unit
  | [] => .ok ()
  | .every _ :: rest => checkPlaces f rest
  | .nth n _ :: rest =>
    let (low, high) := f.placeRange
    if n < low ∨ high < n then .error (.outsideRange .weekdays n f low high)
    else checkPlaces f rest

def check (r : Rule) (zone : Zone) (start : Int) : Except RuleError Unit := do
  r.checkEnd zone start
  r.checkPositions
  r.checkMonthDays
  r.checkYearDays
  r.checkWeekNumbers
  checkPlaces r.frequency r.weekdays

end Rule

end Almanac
