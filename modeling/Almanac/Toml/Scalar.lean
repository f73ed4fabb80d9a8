import Almanac.Toml.Value
import Almanac.Calendar.Written

/-!
Numbers, truth values and times of a TOML document.
-/

namespace Almanac.Toml

/-- Takes out the underscores, each of which must stand between two digits. -/
def joinDigits? (isDigit : Char → Bool) (cs : List Char) : Option (List Char) :=
  let groups := cs.splitOn '_'
  if groups.all fun g => g ≠ [] && g.all isDigit then some groups.flatten else none

def isHexDigit (c : Char) : Bool :=
  c.isDigit || ('a' ≤ c.toLower && c.toLower ≤ 'f')

def digitOf (c : Char) : Nat :=
  if c.isDigit then c.toNat - 48 else c.toLower.toNat - 87

def readRadix? (radix : Nat) (cs : List Char) : Option Nat :=
  let isDigit (c : Char) : Bool := isHexDigit c && decide (digitOf c < radix)
  (joinDigits? isDigit cs).map fun ds => ds.foldl (fun n c => radix * n + digitOf c) 0

def readWhole? (cs : List Char) : Option Nat := do
  let ds ← joinDigits? Char.isDigit cs
  if ds.length > 1 ∧ ds.head? = some '0' then none else Text.readDigits? ds

def splitSign (cs : List Char) : Bool × List Char :=
  match cs with
  | '-' :: cs => (true, cs)
  | '+' :: cs => (false, cs)
  | cs => (false, cs)

def readInteger? (cs : List Char) : Option Int :=
  let n? : Option Int :=
    match cs with
    | '0' :: 'x' :: ds => (readRadix? 16 ds).map Int.ofNat
    | '0' :: 'o' :: ds => (readRadix? 8 ds).map Int.ofNat
    | '0' :: 'b' :: ds => (readRadix? 2 ds).map Int.ofNat
    | _ =>
      let (negative, ds) := splitSign cs
      (readWhole? ds).map fun n => if negative then -Int.ofNat n else Int.ofNat n
  n?.filter fun n => -9223372036854775808 ≤ n ∧ n ≤ 9223372036854775807

def readFloatMagnitude? (negative : Bool) (cs : List Char) : Option Double := do
  let isMark (c : Char) : Bool := c == 'e' || c == 'E'
  let (fixed, exponent?) :=
    match Text.cut? isMark cs with
    | some (fixed, exponent) => (fixed, some exponent)
    | none => (cs, none)
  let (whole, fraction?) :=
    match Text.cut? (· == '.') fixed with
    | some (whole, fraction) => (whole, some fraction)
    | none => (fixed, none)
  if exponent?.isNone && fraction?.isNone then none
  else
    let n ← readWhole? whole
    let fraction ← match fraction? with
      | some ds => joinDigits? Char.isDigit ds
      | none => some []
    let power ← match exponent? with
      | some cs =>
        let (negative, ds) := splitSign cs
        (joinDigits? Char.isDigit ds).map fun ds =>
          if negative then -Int.ofNat (Text.digitsValue ds) else Int.ofNat (Text.digitsValue ds)
      | none => some 0
    let digits := n * Double.tenTo fraction.length + Text.digitsValue fraction
    match Double.ofDecimal negative digits (power - fraction.length) with
    | .infinity _ => none
    | d => return d

def readFloat? (cs : List Char) : Option Double :=
  let (negative, cs) := splitSign cs
  if cs = "inf".toList then some (.infinity negative)
  else if cs = "nan".toList then some .nan
  else readFloatMagnitude? negative cs

def readTwo? (cs : List Char) : Option Nat :=
  if cs.length = 2 then Text.readDigits? cs else none

def readDay? (cs : List Char) : Option (List Char) := do
  let [year, month, day] := cs.splitOn '-' | none
  if year.length ≠ 4 then none
  let date ← Date.ofFields? (← Text.readDigits? year) (← readTwo? month) (← readTwo? day)
  return date.extended

def readTime? (cs : List Char) : Option (List Char) := do
  let (clock, fraction?) :=
    match Text.cut? (· == '.') cs with
    | some (clock, fraction) => (clock, some fraction)
    | none => (cs, none)
  let hour :: minute :: rest := clock.splitOn ':' | none
  let h ← readTwo? hour
  let m ← readTwo? minute
  if h > 23 ∨ m > 59 then none
  match rest, fraction? with
  | [], none => return hour ++ ':' :: minute
  | [second], none =>
    if (← readTwo? second) > 60 then none
    return clock
  | [second], some fraction =>
    if (← readTwo? second) > 60 ∨ (Text.readDigits? fraction).isNone then none
    let kept := Text.dropEndWhile (· == '0') (fraction.take 9)
    return if kept = [] then clock else clock ++ '.' :: kept
  | _, _ => none

def readOffset? (cs : List Char) : Option (List Char) :=
  match cs with
  | ['Z'] | ['z'] => some ['Z']
  | sign :: offset =>
    if sign = '+' ∨ sign = '-' then do
      let [hour, minute] := offset.splitOn ':' | none
      if (← readTwo? hour) > 23 ∨ (← readTwo? minute) > 59 then none
      return cs
    else none
  | [] => none

def readOffsetTime? (cs : List Char) : Option (List Char) :=
  let isTimeChar (c : Char) : Bool := c.isDigit || c == ':' || c == '.'
  let time := cs.takeWhile isTimeChar
  let offset := cs.drop time.length
  do
    let time ← readTime? time
    if offset = [] then return time
    else return time ++ (← readOffset? offset)

def readMoment? (cs : List Char) : Option (List Char) :=
  match readDay? (cs.take 10), cs.drop 10 with
  | some day, [] => some day
  | some day, mark :: time =>
    if mark = 'T' ∨ mark = 't' ∨ mark = ' ' then
      (readOffsetTime? time).map fun time => day ++ 'T' :: time
    else none
  | none, _ => readTime? cs

def isScalarChar (c : Char) : Bool :=
  c.isAlphanum || c == '_' || c == '-' || c == '+' || c == '.' || c == ':'

/-- The characters of a scalar. A space may stand between a day and its time. -/
def takeScalar (cs : List Char) : List Char × List Char :=
  let word := cs.takeWhile isScalarChar
  let rest := cs.drop word.length
  match rest with
  | ' ' :: d :: rest' =>
    if (readDay? word).isSome && d.isDigit then
      let time := (d :: rest').takeWhile isScalarChar
      (word ++ ' ' :: time, (d :: rest').drop time.length)
    else (word, rest)
  | _ => (word, rest)

def readScalar? (cs : List Char) : Option (Value × List Char) :=
  let (word, rest) := takeScalar cs
  if word = "true".toList then some (.boolean true, rest)
  else if word = "false".toList then some (.boolean false, rest)
  else match readInteger? word with
    | some n => some (.integer n, rest)
    | none =>
      match readFloat? word with
      | some d => some (.float d, rest)
      | none => (readMoment? word).map fun t => (.time (String.ofList t), rest)

end Almanac.Toml
