import Almanac.Calendar.DateTime
import Almanac.Text.Number
import Almanac.Line.Error

/-!
Days and times as content lines spell them: `YYYYMMDD`, `HHMMSS` and both joined by `T`, a time in
UTC being marked by a `Z` at the end.
-/

namespace Almanac

open Text (digitsValue)

def readDate (cs : List Char) : Except LineFault Date :=
  if cs.length = 8 ∧ cs.all Char.isDigit then
    match Date.ofFields? (digitsValue (cs.take 4)) (digitsValue ((cs.drop 4).take 2))
        (digitsValue (cs.drop 6)) with
    | some date => .ok date
    | none => .error .invalidDate
  else .error .invalidDate

/-- The time, and whether it is marked as UTC. -/
def readTime (cs : List Char) : Except LineFault (TimeOfDay × Bool) :=
  let isUtc := cs.getLast? == some 'Z'
  let digits := if isUtc then cs.dropLast else cs
  if digits.length = 6 ∧ digits.all Char.isDigit then
    match TimeOfDay.ofFields? (digitsValue (digits.take 2)) (digitsValue ((digits.drop 2).take 2))
        (digitsValue (digits.drop 4)) with
    | some time => .ok (time, isUtc)
    | none => .error .invalidTime
  else .error .invalidTime

def isTimeMark (c : Char) : Bool :=
  c == 'T' || c == 't'

def readDateTime (cs : List Char) : Except LineFault (DateTime × Bool) :=
  match Text.cut? isTimeMark cs with
  | none => .error .invalidDateTime
  | some (date, time) => do
    let date ← readDate date
    let (time, isUtc) ← readTime time
    return (⟨date, time⟩, isUtc)

end Almanac
