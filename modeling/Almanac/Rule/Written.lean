import Almanac.Rule.Basic
import Almanac.Calendar.Written

/-!
The text of a completed rule. A part that says nothing is left out.
-/

namespace Almanac

/-- A place in the period is written before the weekday, except the first place. -/
def WeekdayChoice.written : WeekdayChoice → String
  | every day => day.abbreviation
  | nth n day => if n = 1 then day.abbreviation else toString n ++ day.abbreviation

namespace Rule

def writeUtc (n : Int) : String :=
  String.ofList ((DateTime.ofSeconds n).basic ++ ['Z'])

def writeList (part : ListPart) (items : List String) : List String :=
  if items.isEmpty then [] else [part.name ++ "=" ++ ",".intercalate items]

def writeNumbers (part : ListPart) (ns : List Int) : List String :=
  writeList part (ns.map toString)

def written (r : Rule) : String :=
  ";".intercalate (
    ["FREQ=" ++ r.frequency.name]
      ++ r.until?.toList.map (fun n => "UNTIL=" ++ writeUtc n)
      ++ r.count?.toList.map (fun n => "COUNT=" ++ toString n)
      ++ (if r.interval = 1 then [] else ["INTERVAL=" ++ toString r.interval])
      ++ (if r.weekStart = .monday then [] else ["WKST=" ++ r.weekStart.abbreviation])
      ++ writeNumbers .setPositions r.setPositions
      ++ writeNumbers .months r.months
      ++ writeNumbers .monthDays r.monthDays
      ++ writeNumbers .weekNumbers r.weekNumbers
      ++ writeNumbers .hours r.hours
      ++ writeNumbers .minutes r.minutes
      ++ writeNumbers .seconds r.seconds
      ++ writeNumbers .yearDays r.yearDays
      ++ writeList .weekdays (r.weekdays.map WeekdayChoice.written))

end Rule

end Almanac
