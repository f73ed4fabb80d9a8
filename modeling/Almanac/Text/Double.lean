import Almanac.Text.Number

/-!
Binary floating-point numbers with 53 significant bits. Reading takes the nearest number, a tie going
to the even one; writing gives the fewest digits that read back, and never an exponent.
-/

namespace Almanac

/-- A finite number is `mantissa * 2 ^ exponent`. -/
inductive Double
  | finite (negative : Bool) (mantissa : Nat) (exponent : Int)
  | infinity (negative : Bool)
  | nan
deriving DecidableEq

namespace Double

def isZero : Double → Bool
  | finite _ 0 _ => true
  | _ => false

def twoTo (n : Nat) : Nat := Nat.pow 2 n

def tenTo (n : Nat) : Nat := Nat.pow 10 n

def roundEven (num den : Nat) : Nat :=
  let q := num / den
  let r := 2 * (num % den)
  if r < den ∨ (r = den ∧ q % 2 = 0) then q else q + 1

/-- The quotient `num / den * 2 ^ (-exponent)`, rounded. -/
def scaled (num den : Nat) (exponent : Int) : Nat :=
  if 0 ≤ exponent then roundEven num (den * twoTo exponent.toNat)
  else roundEven (num * twoTo (-exponent).toNat) den

def ofQuotient (negative : Bool) (num den : Nat) : Double :=
  if num = 0 then finite negative 0 0
  else
    let exponent := max (Int.ofNat (Nat.log2 num) - Int.ofNat (Nat.log2 den) - 53) (-1074)
    let exponent := if twoTo 53 ≤ scaled num den exponent then exponent + 1 else exponent
    let exponent := if twoTo 53 ≤ scaled num den exponent then exponent + 1 else exponent
    if 971 < exponent then infinity negative
    else finite negative (scaled num den exponent) exponent

def ofDecimal (negative : Bool) (digits : Nat) (power : Int) : Double :=
  let size := power + (Text.writeNat digits).length
  if digits = 0 ∨ size < -400 then finite negative 0 0
  else if 400 < size then infinity negative
  else if 0 ≤ power then ofQuotient negative (digits * tenTo power.toNat) 1
  else ofQuotient negative digits (tenTo (-power).toNat)

/-- Digits that may be missing before or after the point, with the count of those after it. -/
def readFixed? (cs : List Char) : Option (Nat × Nat) :=
  let (whole, fraction) := (Text.cut? (· == '.') cs).getD (cs, [])
  let digits := whole ++ fraction
  (Text.readDigits? digits).map fun n => (n, fraction.length)

def readDecimal? (negative : Bool) (cs : List Char) : Option Double :=
  match Text.cut? (fun c => c == 'e' || c == 'E') cs with
  | none => (readFixed? cs).map fun (digits, places) => ofDecimal negative digits (-places)
  | some (fixed, exponent) => do
    let (digits, places) ← readFixed? fixed
    let exponent ← Text.readSigned? exponent
    return ofDecimal negative digits (exponent - places)

def readMagnitude? (negative : Bool) (cs : List Char) : Option Double :=
  let word := cs.map Char.toLower
  if word = "inf".toList ∨ word = "infinity".toList then some (infinity negative)
  else if word = "nan".toList then some nan
  else readDecimal? negative cs

def read? : List Char → Option Double
  | '-' :: cs => readMagnitude? true cs
  | '+' :: cs => readMagnitude? false cs
  | cs => readMagnitude? false cs

/-- The decimal exponent of the first digit of a positive quotient. -/
def leadingPower (num den : Nat) : Int :=
  let guess := Int.ofNat (Text.writeNat num).length - Int.ofNat (Text.writeNat den).length
  let reaches (k : Int) : Bool :=
    if 0 ≤ k then decide (den * tenTo k.toNat ≤ num) else decide (den ≤ num * tenTo (-k).toNat)
  if reaches guess then guess else guess - 1

/-- The decimal with `count` digits that is nearest to a quotient, as digits and power. -/
def nearestDecimal (num den count : Nat) : Nat × Int :=
  let power := leadingPower num den - count + 1
  if 0 ≤ power then (roundEven num (den * tenTo power.toNat), power)
  else (roundEven (num * tenTo (-power).toNat) den, power)

/-- The shortest decimal, of `count` digits or more, that reads back as the number. -/
def shortest (mantissa : Nat) (exponent : Int) (num den : Nat) : Nat → Nat → Nat × Int
  | 0, count => nearestDecimal num den count
  | more + 1, count =>
    let (digits, power) := nearestDecimal num den count
    if ofDecimal false digits power = finite false mantissa exponent then (digits, power)
    else shortest mantissa exponent num den more (count + 1)

def writePositional (digits : Nat) (power : Int) : List Char :=
  if 0 ≤ power then Text.writeNat digits ++ List.replicate power.toNat '0'
  else
    let places := (-power).toNat
    let whole := digits / tenTo places
    let fraction := Text.writePadded places (digits % tenTo places)
    let fraction := Text.dropEndWhile (· == '0') fraction
    if fraction = [] then Text.writeNat whole else Text.writeNat whole ++ '.' :: fraction

def written : Double → List Char
  | nan => "NaN".toList
  | infinity negative => if negative then "-inf".toList else "inf".toList
  | finite negative mantissa exponent =>
    let text :=
      if mantissa = 0 then ['0']
      else
        let num := if 0 ≤ exponent then mantissa * twoTo exponent.toNat else mantissa
        let den := if 0 ≤ exponent then 1 else twoTo (-exponent).toNat
        let (digits, power) := shortest mantissa exponent num den 16 1
        writePositional digits power
    if negative then '-' :: text else text

end Double

end Almanac
