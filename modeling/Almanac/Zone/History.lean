import Almanac.Zone.Basic
import Almanac.Text.Number
import Almanac.Zone.History.Africa
import Almanac.Zone.History.America
import Almanac.Zone.History.Antarctica
import Almanac.Zone.History.Asia
import Almanac.Zone.History.Atlantic
import Almanac.Zone.History.Australia
import Almanac.Zone.History.Etc
import Almanac.Zone.History.Europe
import Almanac.Zone.History.Indian
import Almanac.Zone.History.Pacific
import Almanac.Zone.History.Shared

/-!
The zones known by name. A history is written as the first offset, then `second:offset` for each
change, and for a clock that goes on changing twice a year the word `yearly` followed by the first
such year, the standard and the summer offset, and the days on which summer time begins and ends.
Such a day is written `month.week.weekday/second`: the week is 5 for the last in the month, Sunday
is weekday 0, and the second is counted from local midnight before the change.
-/

namespace Almanac.Zone

/-- A day of the year at which the clock changes, and the local second. -/
structure YearlyDay where
  month : Nat
  week : Nat
  weekday : Nat
  second : Int

namespace YearlyDay

def ofWords? (word : List Char) : Option YearlyDay := do
  let [day, second] := word.splitOn '/' | none
  let [month, week, weekday] := day.splitOn '.' | none
  return {
    month := ← Text.readDigits? month
    week := ← Text.readDigits? week
    weekday := ← Text.readDigits? weekday
    second := ← Text.readSigned? second }

def localSecond (d : YearlyDay) (year : Int) : Int :=
  let first := Date.yearStart year + daysBeforeMonth year d.month
  let skip := (d.weekday - (first + 4)) % 7
  let day := skip + 7 * (d.week - 1)
  let day := if day < daysInMonth year d.month then day else day - 7
  86400 * (first + day) + d.second

end YearlyDay

/-- The last year in which clocks that change every year are taken to change. -/
def lastYearOfChange : Int := 2099

def yearlyChanges (standard summer : Offset) (start finish : YearlyDay) (year : Int) :
    List OffsetChange :=
  (List.range (lastYearOfChange + 1 - year).toNat).flatMap fun k =>
    let y := year + Int.ofNat k
    let on : OffsetChange := ⟨start.localSecond y - standard.seconds, summer⟩
    let off : OffsetChange := ⟨finish.localSecond y - summer.seconds, standard⟩
    if on.second < off.second then [on, off] else [off, on]

def readOffset? (word : List Char) : Option Offset :=
  (Text.readSigned? word).bind Offset.ofSeconds?

def yearlyOfWords? : List (List Char) → Option (List OffsetChange)
  | [] => some []
  | [year, standard, summer, start, finish] => do
    return yearlyChanges (← readOffset? standard) (← readOffset? summer)
      (← YearlyDay.ofWords? start) (← YearlyDay.ofWords? finish) (← Text.readSigned? year)
  | _ => none

/-- Reads the changes up to the word `yearly`, and then the rule. -/
def historyOfWords? : List (List Char) → Option (List OffsetChange)
  | [] => some []
  | word :: words =>
    if word == "yearly".toList then yearlyOfWords? words
    else do
      let [second, offset] := word.splitOn ':' | none
      let change : OffsetChange := ⟨← Text.readSigned? second, ← readOffset? offset⟩
      return change :: (← historyOfWords? words)

def ofHistory? (name history : String) : Option Zone := do
  let words := (history.toList.splitOnP Text.isBlank).filter (· ≠ [])
  let first :: words := words | none
  return ⟨name, Clock.ofChanges (← readOffset? first) (← historyOfWords? words)⟩

namespace History

def all : List (String × String) :=
  africa ++ america ++ antarctica ++ asia ++ atlantic ++ australia ++ etc ++ europe ++ indian
    ++ pacific

def find? (name : String) : Option String :=
  all.lookup ((shared.lookup name).getD name)

end History

def names : List String :=
  History.all.map Prod.fst ++ History.shared.map Prod.fst

def named? (name : String) : Option Zone := do
  ofHistory? name (← History.find? name)

end Almanac.Zone
