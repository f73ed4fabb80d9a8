import Almanac.Rule.Error
import Almanac.Line.DateForms
import Almanac.Line.Property
import Almanac.Text.Case

/-!
Reading the text of a rule. The text is cut into `KEY=value` parts, which are looked at in turn; then
the values are read in a fixed order, and the first fault is reported.
-/

namespace Almanac

/-- A rule that is refused for a reason, or one whose text breaks reading off. -/
inductive RuleFailure
  | refused (reason : RuleError)
  /-- The last two bytes of a weekday begin inside a character. -/
  | brokenOff
deriving DecidableEq

inductive RuleKey
  | freq | finish | count | interval | weekStart
  | list (part : ListPart)
deriving DecidableEq

namespace RuleKey

def table : List (String × RuleKey) := [
  ("FREQ", freq),
  ("UNTIL", finish),
  ("COUNT", count),
  ("INTERVAL", interval),
  ("WKST", weekStart),
  ("BYSECOND", list .seconds),
  ("BYMINUTE", list .minutes),
  ("BYHOUR", list .hours),
  ("BYDAY", list .weekdays),
  ("BYWEEKDAY", list .weekdays),
  ("BYMONTHDAY", list .monthDays),
  ("BYYEARDAY", list .yearDays),
  ("BYWEEKNO", list .weekNumbers),
  ("BYMONTH", list .months),
  ("BYSETPOS", list .setPositions)]

def ofName? (name : List Char) : Option RuleKey :=
  table.lookup (String.ofList (Text.toUpper name))

end RuleKey

namespace RuleParts

/-- The word of capitals at the start, if a colon or a semicolon follows it. -/
def leadingName? (cs : List Char) : Option (List Char) :=
  let name := cs.takeWhile Char.isUpper
  if name = [] then none
  else match cs.drop name.length with
    | ':' :: _ | ';' :: _ => some name
    | _ => none

/-- The part of the text that holds the rule; a property name and its colon may stand before it. -/
def body (cs : List Char) : Except RuleError (List Char) :=
  let afterColon := Text.cut? (· == ':') cs
  match leadingName? cs with
  | none => .ok ((afterColon.map Prod.snd).getD cs)
  | some name =>
    match Property.all.find? fun p => p.name.toList == name with
    | none => .error (.unknownProperty (String.ofList name))
    | some property =>
      match afterColon with
      | none => .ok (if property = .rrule then cs else [])
      | some (head, rest) =>
        let parameters := head.drop (name.length + 1)
        if parameters = [] then .ok rest
        else .error (.parametersPresent (String.ofList parameters))

def readPairs (before : List (RuleKey × List Char)) :
    List (List Char) → Except RuleError (List (RuleKey × List Char))
  | [] => .ok before
  | part :: parts =>
    if part = [] then readPairs before parts
    else match Text.cut? (· == '=') part with
      | none => .error (.notKeyAndValue (String.ofList part))
      | some (name, value) =>
        match RuleKey.ofName? name with
        | none => .error (.unknownKey (String.ofList name))
        | some key =>
          if (before.lookup key).isSome then .error (.repeatedKey (String.ofList name))
          else readPairs (before ++ [(key, value)]) parts

def readWithin (low high : Int) (n : Option Int) : Option Int :=
  n.filter fun n => low ≤ n ∧ n ≤ high

def readUnsignedWithin (low high : Int) (cs : List Char) : Option Int :=
  readWithin low high ((Text.readUnsigned? cs).map Int.ofNat)

def readSignedWithin (low high : Int) (cs : List Char) : Option Int :=
  readWithin low high (Text.readSigned? cs)

def readNumber? (part : ListPart) : List Char → Option Int :=
  match part with
  | .setPositions => readSignedWithin (-2147483648) 2147483647
  | .months => readUnsignedWithin 1 12
  | .monthDays => readSignedWithin (-31) 31
  | .yearDays => readSignedWithin (-366) 366
  | .weekNumbers => readSignedWithin (-53) 53
  | .hours => readUnsignedWithin 0 23
  | .minutes | .seconds => readUnsignedWithin 0 59
  | .weekdays => fun _ => none

def readAll? (read : List Char → Option Int) : List (List Char) → Option (List Int)
  | [] => some []
  | item :: items => do
    let n ← read item
    return n :: (← readAll? read items)

def ascending (ns : List Int) : List Int :=
  (ns.mergeSort fun a b => decide (a ≤ b)).eraseReps

def readList (pairs : List (RuleKey × List Char)) (part : ListPart) :
    Except RuleFailure (List Int) :=
  match pairs.lookup (.list part) with
  | none => .ok []
  | some [] => .ok []
  | some value =>
    match readAll? (readNumber? part) (value.splitOn ',') with
    | some ns => .ok (ascending ns)
    | none => .error (.refused (.badList part (String.ofList value)))

def readFrequency (pairs : List (RuleKey × List Char)) : Except RuleFailure Frequency :=
  match pairs.lookup .freq with
  | none => .error (.refused .missingFrequency)
  | some value =>
    let name := String.ofList (Text.toUpper value)
    match Frequency.ofName? name with
    | some f => .ok f
    | none => .error (.refused (.unknownFrequency name))

def readInterval (pairs : List (RuleKey × List Char)) : Except RuleFailure Nat :=
  match pairs.lookup .interval with
  | none => .ok 1
  | some value =>
    match readUnsignedWithin 0 65535 value with
    | some n => .ok n.toNat
    | none => .error (.refused (.badInterval (String.ofList value)))

def readCount (pairs : List (RuleKey × List Char)) : Except RuleFailure (Option Nat) :=
  match pairs.lookup .count with
  | none => .ok none
  | some value =>
    match readUnsignedWithin 0 4294967295 value with
    | some n => .ok (some n.toNat)
    | none => .error (.refused (.badCount (String.ofList value)))

/-- A day, or a day and a time joined by a capital `T`; only a capital `Z` makes it UTC. -/
def readEnd? (value : List Char) : Option RuleEnd :=
  match (readDate (value.take 8)).toOption, value.drop 8 with
  | some date, [] => some (.floating (DateTime.midnight date))
  | some date, 'T' :: time =>
    match readTime time with
    | .ok (time, true) => some (.utc ⟨date, time⟩)
    | .ok (time, false) => some (.floating ⟨date, time⟩)
    | .error _ => none
  | _, _ => none

def readEnd (pairs : List (RuleKey × List Char)) : Except RuleFailure (Option RuleEnd) :=
  match pairs.lookup .finish with
  | none => .ok none
  | some value =>
    match readEnd? value with
    | some e => .ok (some e)
    | none => .error (.refused (.badEnd (String.ofList value)))

def readWeekday? (name : List Char) : Option Weekday :=
  Weekday.ofAbbreviation? (String.ofList (Text.toUpper name))

def readWeekStart (pairs : List (RuleKey × List Char)) : Except RuleFailure Weekday :=
  match pairs.lookup .weekStart with
  | none => .ok .monday
  | some value =>
    match readWeekday? value with
    | some day => .ok day
    | none => .error (.refused (.unknownWeekStart (String.ofList value)))

/-- Cuts off the last two bytes, unless they begin inside a character. -/
def cutLastTwoBytes? (cs : List Char) : Option (List Char × List Char) :=
  match cs.reverse with
  | [] => none
  | c :: before =>
    if c.utf8Size = 2 then some (before.reverse, [c])
    else match before with
      | [] => none
      | b :: before =>
        if c.utf8Size = 1 ∧ b.utf8Size = 1 then some (before.reverse, [b, c]) else none

/-- Reads a weekday with its place before it. A place that is 0 or no small number is no place. -/
def readWeekdayChoice (item : List Char) : Except RuleFailure WeekdayChoice :=
  let unknown : RuleFailure := .refused (.unknownWeekday (String.ofList item))
  if Text.byteLength item < 2 then .error unknown
  else match cutLastTwoBytes? item with
    | none => .error .brokenOff
    | some (place, name) =>
      match readWeekday? name with
      | none => .error unknown
      | some day =>
        let n := (readSignedWithin (-32768) 32767 place).getD 0
        .ok (if n = 0 then .every day else .nth n day)

def readWeekdayChoices : List (List Char) → Except RuleFailure (List WeekdayChoice)
  | [] => .ok []
  | item :: items => do
    let choice ← readWeekdayChoice item
    return choice :: (← readWeekdayChoices items)

def readWeekdays (pairs : List (RuleKey × List Char)) :
    Except RuleFailure (List WeekdayChoice) :=
  match pairs.lookup (.list .weekdays) with
  | none => .ok []
  | some value => readWeekdayChoices (value.splitOn ',')

def ofPairs (pairs : List (RuleKey × List Char)) : Except RuleFailure RuleParts := do
  let frequency ← readFrequency pairs
  let interval ← readInterval pairs
  let count? ← readCount pairs
  let ending? ← readEnd pairs
  let weekStart ← readWeekStart pairs
  let setPositions ← readList pairs .setPositions
  let months ← readList pairs .months
  let monthDays ← readList pairs .monthDays
  let yearDays ← readList pairs .yearDays
  let weekNumbers ← readList pairs .weekNumbers
  let weekdays ← readWeekdays pairs
  let hours ← readList pairs .hours
  let minutes ← readList pairs .minutes
  let seconds ← readList pairs .seconds
  return {
    frequency, interval, count?, ending?, weekStart, setPositions, months, monthDays, yearDays,
    weekNumbers, weekdays, hours, minutes, seconds }

def parse (text : String) : Except RuleFailure RuleParts :=
  match body text.toList with
  | .error e => .error (.refused e)
  | .ok cs =>
    match readPairs [] (cs.splitOn ';') with
    | .error e => .error (.refused e)
    | .ok pairs => ofPairs pairs

end RuleParts

end Almanac
