import Almanac.Line.DateList
import Almanac.Proofs.Except

/-! The number of a line plays no part in reading it. Read under another number a line gives the
same result, and a fault of it differs in the number alone: `parse_renumber` and
`dateList_renumber`. -/

namespace Almanac

namespace LineError

def onLine (number : Nat) (e : LineError) : LineError :=
  { e with line := number }

end LineError

open LineError (onLine)

namespace ContentLine

variable (number number' : Nat)

theorem readParameter_renumber (offset : Nat) (segment : List Char) :
    readParameter number' offset segment =
      (readParameter number offset segment).mapError (onLine number') := by
  simp only [readParameter]
  split
  · rfl
  · split
    · rfl
    · split
      · rfl
      · split
        · rfl
        · rfl

theorem readParameters_renumber (segments : List (Nat × List Char)) :
    readParameters number' segments =
      (readParameters number segments).mapError (onLine number') := by
  induction segments with
  | nil => rfl
  | cons segment segments ih =>
    simp only [readParameters, mapError_bind, ← readParameter_renumber, ← ih]
    rfl

theorem parse_renumber (line : String) :
    parse line number' = (parse line number).mapError (onLine number') := by
  simp only [parse]
  split
  · rfl
  · rfl
  · split
    · rfl
    · split
      · rfl
      · split
        · rfl
        · rw [mapError_bind, ← readParameters_renumber]
          rfl

theorem readItems_renumber (valueType zoneId : Option String) (items : List (Nat × List Char)) :
    ListedDate.readItems number' valueType zoneId items =
      (ListedDate.readItems number valueType zoneId items).mapError (onLine number') := by
  induction items with
  | nil => rfl
  | cons item items ih =>
    simp only [ListedDate.readItems]
    split
    · exact ih
    · split
      · rfl
      · rw [mapError_bind, ← ih]
        rfl

theorem dateList_renumber (l : ContentLine) :
    l.dateList number' = (l.dateList number).mapError (onLine number') := by
  simp only [dateList, readItems_renumber number number']
  cases ListedDate.readItems number (l.valueType?.map Text.asciiUpper) l.zoneId?
      (withOffsets l.valueOffset (l.value.toList.splitOn ',')) with
  | error e => rfl
  | ok listed =>
    cases listed with
    | nil => rfl
    | cons d ds => rfl

end ContentLine

end Almanac
