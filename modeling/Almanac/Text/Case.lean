import Almanac.Text.CaseTable

/-!
Upper and lower case for whole texts. A letter may become several, and a capital sigma at the end of
a word becomes the final form of the small letter.
-/

namespace Almanac.Text

def hexDigitValue (c : Char) : Nat :=
  if c.isDigit then c.toNat - 48 else c.toLower.toNat - 87

def hexValue (cs : List Char) : Nat :=
  cs.foldl (fun n c => 16 * n + hexDigitValue c) 0

def tableWords (table : String) : List (List Char) :=
  (table.toList.splitOnP fun c => c == ' ' || c == '\n').filter (· ≠ [])

/-- Inclusive ranges, written `first-last` in hexadecimal, or one number alone. -/
def rangesOf (table : String) : List (Nat × Nat) :=
  (tableWords table).filterMap fun word =>
    match word.splitOn '-' with
    | [n] => some (hexValue n, hexValue n)
    | [a, b] => some (hexValue a, hexValue b)
    | _ => none

def inRanges (ranges : List (Nat × Nat)) (c : Char) : Bool :=
  ranges.any fun r => r.1 ≤ c.toNat && c.toNat ≤ r.2

inductive CaseEntry
  | run (first last step image : Nat)
  | expansion (char : Nat) (image : List Char)

def CaseEntry.ofWord? (word : List Char) : Option CaseEntry :=
  match word.splitOn ':' with
  | [a, b, s, i] => some (.run (hexValue a) (hexValue b) (hexValue s) (hexValue i))
  | _ =>
    match word.splitOn '=' with
    | [c, i] =>
      some (.expansion (hexValue c) ((i.splitOn '+').map fun d => Char.ofNat (hexValue d)))
    | _ => none

def CaseEntry.image? (c : Char) : CaseEntry → Option (List Char)
  | run first last step image =>
    let n := c.toNat
    if first ≤ n ∧ n ≤ last ∧ (n - first) % step = 0 then some [Char.ofNat (image + (n - first))]
    else none
  | expansion char image => if c.toNat = char then some image else none

def upperCaseEntries : List CaseEntry :=
  (tableWords upperCaseTable).filterMap CaseEntry.ofWord?

def lowerCaseEntries : List CaseEntry :=
  (tableWords lowerCaseTable).filterMap CaseEntry.ofWord?

def casedRanges : List (Nat × Nat) := rangesOf casedTable

def caseIgnorableRanges : List (Nat × Nat) := rangesOf caseIgnorableTable

def upperOfChar (c : Char) : List Char :=
  if c.toNat < 128 then [c.toUpper]
  else (upperCaseEntries.findSome? (CaseEntry.image? c)).getD [c]

def lowerOfChar (c : Char) : List Char :=
  if c.toNat < 128 then [c.toLower]
  else (lowerCaseEntries.findSome? (CaseEntry.image? c)).getD [c]

def isCased (c : Char) : Bool :=
  if c.toNat < 128 then c.isAlpha else inRanges casedRanges c

def isCaseIgnorable (c : Char) : Bool :=
  inRanges caseIgnorableRanges c

/-- Whether the next character that is not passed over has letter case. -/
def meetsCased (cs : List Char) : Bool :=
  ((cs.dropWhile isCaseIgnorable).head?.map isCased).getD false

def toUpper (cs : List Char) : List Char :=
  cs.flatMap upperOfChar

/-- Lower case of a text that follows `before`, which is given backwards. -/
def toLowerAfter (before : List Char) : List Char → List Char
  | [] => []
  | c :: cs =>
    let image :=
      if c = 'Σ' then
        if meetsCased before && !meetsCased cs then ['ς'] else ['σ']
      else lowerOfChar c
    image ++ toLowerAfter (c :: before) cs

def toLower (cs : List Char) : List Char :=
  toLowerAfter [] cs

end Almanac.Text
