import Almanac.Rule.Basic

/-!
Why the text of a rule is refused. The first group are faults of the text; the second are rules that
read well but make no sense, or none at the start of their series.
-/

namespace Almanac

inductive RuleError
  | unknownFrequency (text : String)
  | unknownWeekday (text : String)
  | unknownWeekStart (text : String)
  | badInterval (text : String)
  | badCount (text : String)
  | badEnd (text : String)
  | badList (part : ListPart) (text : String)
  | missingFrequency
  | notKeyAndValue (text : String)
  | unknownKey (key : String)
  | repeatedKey (key : String)
  | parametersPresent (text : String)
  | unknownProperty (name : String)
  | endsBeforeStart (finish start : String)
  | zeroNotAllowed (part : ListPart)
  | outsideRange (part : ListPart) (value : Int) (frequency : Frequency) (low high : Int)
  | onlyPositions
  | notWithFrequency (part : ListPart) (frequency : Frequency)
deriving DecidableEq

namespace RuleError

def expectedValues : ListPart → String
  | .setPositions => "integers, e.g. `-3,1`"
  | .months => "values in range 1..=12, e.g. `6,9,10`"
  | .monthDays => "values in range -31..=31, e.g. `-30,10`"
  | .yearDays => "values in range -366..=366, e.g. `-100,`"
  | .weekNumbers => "values in range -53..=53, e.g. `-1,30,53`"
  | .hours => "values in range 0..=23, e.g. `1,3,4`"
  | .minutes | .seconds => "values in range 0..=59, e.g. `0,15,30,45`"
  | .weekdays => "weekdays"

def weekdayNames : String :=
  "Valid values are `MO`, `TU`, `WE`, `TH`, `FR`, `SA` and `SU`."

def ticked (text : String) : String :=
  "`" ++ text ++ "`"

/-- The message without the word that tells a fault of the text from a rule that makes no sense. -/
def detail : RuleError → String
  | unknownFrequency text => ticked text ++ " is not a valid frequency."
  | unknownWeekday text => ticked text ++ " is not a valid weekday. " ++ weekdayNames
  | unknownWeekStart text => ticked text ++ " is not a valid weekday start. " ++ weekdayNames
  | badInterval text => ticked text ++ " is not a valid INTERVAL value."
  | badCount text => ticked text ++ " is not a valid COUNT value."
  | badEnd text => ticked text ++ " is not a valid datetime format for `UNTIL`."
  | badList part text =>
    ticked text ++ " is not a valid " ++ part.name ++ " value. Expected a comma-separated list of "
      ++ expectedValues part
  | missingFrequency => "The property `FREQ` wasn't found, and it is required."
  | notKeyAndValue text =>
    ticked text ++ " is a malformed property parameter. "
      ++ "Parameter should be specified as `key=value`"
  | unknownKey key => ticked key ++ " is not a valid property parameter."
  | repeatedKey key =>
    "Found duplicate property for " ++ ticked key
      ++ ", properties and parameters need to be unique."
  | parametersPresent text =>
    "Property parameters aren't supported for RRULE / EXRULE, found parameters: " ++ ticked text
  | unknownProperty name =>
    ticked name
      ++ " is not a valid property name, expected one of: `RRULE,EXRULE,DTSTART,RDATE,EXDATE`"
  | endsBeforeStart finish start =>
    "`UNTIL` is " ++ ticked finish ++ ", but `DTSTART` (" ++ ticked start
      ++ ") is later. That should not be happening."
  | zeroNotAllowed part =>
    ticked part.name ++ " can't be `0`, must be larger or smaller then `0`."
  | outsideRange part value frequency low high =>
    ticked part.name ++ " is " ++ ticked (toString value) ++ ", but with the current frequency ("
      ++ frequency.name ++ ") is not allowed outside the range: "
      ++ ticked (toString low ++ "..=" ++ toString high) ++ "."
  | onlyPositions =>
    "BYSETPOS should only be used in conjunction with another BYxxx rule part."
  | notWithFrequency part frequency =>
    ticked part.name ++ " can not be used with the current frequency (" ++ frequency.name ++ ")."

/-- Whether the text reads as a rule and only its meaning is refused. -/
def isValidation : RuleError → Bool
  | endsBeforeStart .. | zeroNotAllowed _ | outsideRange .. | onlyPositions
  | notWithFrequency .. => true
  | _ => false

def message (e : RuleError) : String :=
  (if e.isValidation then "RRule validation error: " else "RRule parsing error: ") ++ e.detail

end RuleError

end Almanac
