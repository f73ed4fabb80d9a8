import Almanac.Text.Basic

/-!
The properties that recurrence data is made of.
-/

namespace Almanac

inductive Property
  | rrule
  | exrule
  | rdate
  | exdate
  /-- Allowed and without effect: the start of a series is given apart from its data. -/
  | dtstart
deriving DecidableEq

namespace Property

def all : List Property := [rrule, exrule, rdate, exdate, dtstart]

def name : Property → String
  | rrule => "RRULE"
  | exrule => "EXRULE"
  | rdate => "RDATE"
  | exdate => "EXDATE"
  | dtstart => "DTSTART"

def ofName? (name : String) : Option Property :=
  all.find? fun p => p.name == Text.asciiUpper name

end Property

end Almanac
