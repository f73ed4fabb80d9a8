import Almanac.Calendar.Written

/-!
Points of time and clock readings finer than a second. Both are a whole second and a number of
nanoseconds after it, so that cutting off the nanoseconds rounds down, before 1970 as well.
-/

namespace Almanac

/-- A point on the UTC timeline, as seconds and nanoseconds since the start of 1970. -/
@[ext]
structure Instant where
  second : Int
  nanosecond : Nat := 0
  nanosecond_lt : nanosecond < 1000000000 := by decide
deriving DecidableEq

namespace Instant

def ofSecond (n : Int) : Instant := ⟨n, 0, by decide⟩

def ofNanoseconds (second : Int) (n : Int) : Instant :=
  ⟨second + n / 1000000000, (n % 1000000000).toNat, by omega⟩

/-- Nanoseconds since the start of 1970, negative before it. -/
def sinceEpoch (t : Instant) : Int :=
  1000000000 * t.second + t.nanosecond

instance : LE Instant := ⟨fun a b => a.sinceEpoch ≤ b.sinceEpoch⟩

instance (a b : Instant) : Decidable (a ≤ b) :=
  inferInstanceAs (Decidable (a.sinceEpoch ≤ b.sinceEpoch))

end Instant

@[ext]
structure ClockTime where
  dateTime : DateTime
  nanosecond : Nat := 0
  nanosecond_lt : nanosecond < 1000000000 := by decide
deriving DecidableEq

namespace ClockTime

instance : Coe DateTime ClockTime := ⟨fun t => ⟨t, 0, by decide⟩⟩

def ofNanoseconds (t : DateTime) (n : Int) : ClockTime :=
  ⟨t.addSeconds (n / 1000000000), (n % 1000000000).toNat, by omega⟩

/-- The fraction of a second in 0, 3, 6 or 9 places, whichever is the least that is exact. -/
def writeFraction (n : Nat) : List Char :=
  if n = 0 then []
  else if n % 1000000 = 0 then '.' :: Text.writePadded 3 (n / 1000000)
  else if n % 1000 = 0 then '.' :: Text.writePadded 6 (n / 1000)
  else '.' :: Text.writePadded 9 n

def extended (t : ClockTime) : List Char :=
  t.dateTime.extendedWith ' ' ++ writeFraction t.nanosecond

end ClockTime

end Almanac
