import Almanac.Line.ContentLine
import Almanac.Line.DateForms

/-!
The comma-separated days and times of an RDATE or EXDATE line. The `VALUE` parameter says which form
the items have; without it each item shows its own form. Of a period only the start counts.
-/

namespace Almanac

inductive ListedDate
  | day (date : Date)
  | utc (dateTime : DateTime)
  /-- A wall clock, of the zone named or of the zone that governs the series. -/
  | clock (dateTime : DateTime) (zoneId : Option String)
deriving DecidableEq

namespace ListedDate

def readDateTimeItem (item : List Char) (zoneId : Option String) : Except LineFault ListedDate := do
  let (dateTime, isUtc) ← readDateTime item
  return if isUtc then utc dateTime else clock dateTime zoneId

/-- Whether the second part of a period is a date-time, or looks like a duration. -/
def isPeriodEnd (cs : List Char) : Bool :=
  (cs.dropWhile fun c => c == '+' || c == '-').head? == some 'P' || (readDateTime cs).isOk

def readPeriodItem (item : List Char) (zoneId : Option String) : Except LineFault ListedDate :=
  match Text.cut? (· == '/') item with
  | none => .error .invalidPeriod
  | some (start, finish) =>
    if isPeriodEnd finish then
      match readDateTimeItem start zoneId with
      | .ok listed => .ok listed
      | .error _ => .error .invalidPeriod
    else .error .invalidPeriod

/-- Reads an item; `valueType` is in upper case. -/
def readItem (item : List Char) (valueType zoneId : Option String) :
    Except LineFault ListedDate :=
  if valueType = some "DATE" then (readDate item).map day
  else if valueType = some "PERIOD" then readPeriodItem item zoneId
  else if valueType = some "DATE-TIME" ∨ item.any isTimeMark then readDateTimeItem item zoneId
  else (readDate item).map day

def readItems (number : Nat) (valueType zoneId : Option String) :
    List (Nat × List Char) → Except LineError (List ListedDate)
  | [] => .ok []
  | (offset, raw) :: rest => do
    let item := Text.trim raw
    if item = [] then readItems number valueType zoneId rest
    else
      match readItem item valueType zoneId with
      | .error fault =>
        .error {
          fault
          line := number
          column := offset + 1
          context := some ("`" ++ String.ofList item ++ "`") }
      | .ok listed => return listed :: (← readItems number valueType zoneId rest)

end ListedDate

namespace ContentLine

def dateList (l : ContentLine) (number : Nat) : Except LineError (List ListedDate) :=
  let valueType := l.valueType?.map Text.asciiUpper
  let items := withOffsets l.valueOffset (l.value.toList.splitOn ',')
  match ListedDate.readItems number valueType l.zoneId? items with
  | .error e => .error e
  | .ok [] =>
    .error {
      fault := .invalidDate
      line := number
      column := l.valueColumn
      context := some "empty value list" }
  | .ok listed => .ok listed

end ContentLine

end Almanac
