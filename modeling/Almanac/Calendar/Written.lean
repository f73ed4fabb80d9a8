import Almanac.Calendar.DateTime
import Almanac.Text.Number

/-!
Written forms of days and times: the basic form without separators, and the extended form with
them. A year outside 0 to 9999 carries a sign.
-/

namespace Almanac

open Text (writePadded)

/-- Four digits, or a sign and at least four digits. -/
def writeYear (y : Int) : List Char :=
  if 0 ≤ y ∧ y ≤ 9999 then writePadded 4 y.toNat
  else (if y < 0 then '-' else '+') :: writePadded 4 y.natAbs

namespace Date

def basic (d : Date) : List Char :=
  writeYear d.year ++ writePadded 2 d.month ++ writePadded 2 d.day

def extended (d : Date) : List Char :=
  writeYear d.year ++ '-' :: writePadded 2 d.month ++ '-' :: writePadded 2 d.day

end Date

namespace TimeOfDay

def basic (t : TimeOfDay) : List Char :=
  writePadded 2 t.hour ++ writePadded 2 t.minute ++ writePadded 2 t.second

def extended (t : TimeOfDay) : List Char :=
  writePadded 2 t.hour ++ ':' :: writePadded 2 t.minute ++ ':' :: writePadded 2 t.second

end TimeOfDay

namespace DateTime

def basic (t : DateTime) : List Char :=
  t.date.basic ++ 'T' :: t.time.basic

def extendedWith (separator : Char) (t : DateTime) : List Char :=
  t.date.extended ++ separator :: t.time.extended

def extended (t : DateTime) : List Char :=
  t.extendedWith 'T'

end DateTime

/-- An offset from UTC in hours and minutes, seconds rounded to the nearest minute. -/
def writeOffset (seconds : Int) : List Char :=
  let minutes := (seconds.natAbs + 30) / 60
  (if seconds < 0 then '-' else '+')
    :: (writePadded 2 (minutes / 60) ++ ':' :: writePadded 2 (minutes % 60))

end Almanac
