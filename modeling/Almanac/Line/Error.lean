/-!
Why a content line is refused, and where. Lines and columns count from 1, columns in UTF-8 bytes.
-/

namespace Almanac

inductive LineFault
  | missingPropertyName
  | invalidPropertyName
  | missingColon
  | invalidParameter
  | unclosedQuote
  | invalidDate
  | invalidTime
  | invalidDateTime
  | invalidPeriod
  /-- The value of a rule line is not a rule, or cannot start where the series starts. -/
  | invalidRule
  | unknownZone
  | skippedTime
  /-- The line is well formed, but its property has no place in recurrence data. -/
  | unsupportedProperty
deriving DecidableEq

namespace LineFault

def message : LineFault → String
  | missingPropertyName => "missing property name"
  | invalidPropertyName => "invalid property name"
  | missingColon => "missing colon separator"
  | invalidParameter => "invalid parameter format"
  | unclosedQuote => "unclosed quoted string"
  | invalidDate => "invalid date"
  | invalidTime => "invalid time"
  | invalidDateTime => "invalid date-time"
  | invalidPeriod => "invalid period"
  | invalidRule => "invalid recurrence rule"
  | unknownZone => "unknown timezone"
  | skippedTime => "non-existent local time"
  | unsupportedProperty => "unsupported content line"

end LineFault

structure LineError where
  fault : LineFault
  line : Nat
  column : Nat
  context : Option String := none
  /-- The whole logical line, where the reader of the error has not got it. -/
  content : Option String := none
deriving DecidableEq

namespace LineError

def withContent (e : LineError) (content : String) : LineError :=
  { e with content := some content }

def message (e : LineError) : String :=
  e.fault.message ++ " at line " ++ toString e.line ++ ", column " ++ toString e.column
    ++ (match e.context with
      | some context => ": " ++ context
      | none => "")
    ++ match e.content with
      | some content => " in `" ++ content ++ "`"
      | none => ""

end LineError

end Almanac
