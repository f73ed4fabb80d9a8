import Almanac.Text.Basic

/-!
Whole numbers in decimal: reading a run of digits, with or without a sign, and writing with leading
zeros.
-/

namespace Almanac.Text

def digitValue (c : Char) : Nat :=
  c.toNat - 48

def digitsValue (cs : List Char) : Nat :=
  cs.foldl (fun n c => 10 * n + digitValue c) 0

def readDigits? (cs : List Char) : Option Nat :=
  if cs ≠ [] ∧ cs.all Char.isDigit then some (digitsValue cs) else none

def readUnsigned? : List Char → Option Nat
  | '+' :: cs => readDigits? cs
  | cs => readDigits? cs

def readSigned? : List Char → Option Int
  | '+' :: cs => (readDigits? cs).map Int.ofNat
  | '-' :: cs => (readDigits? cs).map fun n => -Int.ofNat n
  | cs => (readDigits? cs).map Int.ofNat

def writeNat (n : Nat) : List Char :=
  Nat.toDigits 10 n

def writePadded (width n : Nat) : List Char :=
  let ds := writeNat n
  List.replicate (width - ds.length) '0' ++ ds

def writeInt (n : Int) : List Char :=
  if n < 0 then '-' :: writeNat n.natAbs else writeNat n.natAbs

end Almanac.Text
