import Almanac.Rule.Basic

/-!
Completing a rule for a series. What the rule leaves open is taken from the day and the time at
which the series starts.
-/

namespace Almanac

namespace RuleParts

def picksNoDay (p : RuleParts) : Bool :=
  p.weekNumbers.isEmpty && p.yearDays.isEmpty && (p.monthDays.all (· == 0)) && p.weekdays.isEmpty

def orElse (ns : List Int) (fill : Bool) (n : Nat) : List Int :=
  if ns.isEmpty && fill then [Int.ofNat n] else ns

/-- The rule for a series that starts at a wall clock, ending at a UTC second. -/
def complete (p : RuleParts) (start : DateTime) (until? : Option Int) : Rule :=
  let f := p.frequency
  let bare := p.picksNoDay
  let byDate := bare && (f = .yearly || f = .monthly)
  {
    frequency := f
    interval := p.interval
    count? := p.count?
    until?
    weekStart := p.weekStart
    setPositions := p.setPositions
    months := orElse p.months (bare && f = .yearly) start.date.month
    monthDays := orElse (p.monthDays.filter (0 < ·)) byDate start.date.day
    monthDaysFromEnd := p.monthDays.filter (· < 0)
    yearDays := p.yearDays
    weekNumbers := p.weekNumbers
    weekdays :=
      if bare && f = .weekly then [.every start.date.weekday]
      else (p.weekdays.mergeSort WeekdayChoice.le).eraseReps
    hours := orElse p.hours f.isDailyOrLonger start.time.hour
    minutes := orElse p.minutes f.isHourlyOrLonger start.time.minute
    seconds := orElse p.seconds (f ≠ .secondly) start.time.second }

end RuleParts

end Almanac
