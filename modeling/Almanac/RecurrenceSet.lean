import Almanac.Rule.Written
import Almanac.Zone.Basic

/-!
A recurrence set: where a series starts, the rules and single instants that add occurrences to it,
and those that take occurrences away.
-/

namespace Almanac

structure RecurrenceSet where
  /-- The UTC second at which the series starts. -/
  start : Int
  /-- The zone on whose clock the rules are followed. -/
  zone : Zone
  rules : List Rule := []
  exclusionRules : List Rule := []
  dates : List Int := []
  exclusionDates : List Int := []
deriving DecidableEq

namespace RecurrenceSet

def writeStart (s : RecurrenceSet) : String :=
  if s.zone.name = "UTC" then "DTSTART:" ++ Rule.writeUtc s.start
  else
    "DTSTART;TZID=" ++ s.zone.name ++ ":" ++ String.ofList (s.zone.clockAt s.start).basic

def writeDates (name : String) (ns : List Int) : List String :=
  if ns.isEmpty then []
  else [name ++ ";VALUE=DATE-TIME:" ++ ",".intercalate (ns.map Rule.writeUtc)]

def written (s : RecurrenceSet) : String :=
  "\n".intercalate (
    [s.writeStart]
      ++ s.rules.map (fun r => "RRULE:" ++ r.written)
      ++ writeDates "RDATE" s.dates
      ++ s.exclusionRules.map (fun r => "EXRULE:" ++ r.written)
      ++ writeDates "EXDATE" s.exclusionDates)

end RecurrenceSet

end Almanac
