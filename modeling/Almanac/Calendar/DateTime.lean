import Almanac.Calendar.Date
import Almanac.Calendar.TimeOfDay

/-!
A day together with a time of day, to the second. Such a reading of a clock is the same thing as a
number of seconds since the start of 1970 on that clock: `ofSeconds` and `toSeconds` are inverse.
-/

namespace Almanac

@[ext]
structure DateTime where
  date : Date
  time : TimeOfDay
deriving DecidableEq

namespace DateTime

def midnight (d : Date) : DateTime :=
  ⟨d, TimeOfDay.midnight⟩

def toSeconds (t : DateTime) : Int :=
  86400 * t.date.dayNumber + t.time.toSeconds

def ofSeconds (n : Int) : DateTime :=
  ⟨Date.ofDayNumber (n / 86400), TimeOfDay.ofSeconds (n % 86400).toNat (by omega)⟩

@[simp] theorem toSeconds_ofSeconds (n : Int) : (ofSeconds n).toSeconds = n := by
  simp only [toSeconds, ofSeconds, Date.dayNumber_ofDayNumber, TimeOfDay.toSeconds_ofSeconds]
  omega

theorem toSeconds_inj {a b : DateTime} (h : a.toSeconds = b.toSeconds) : a = b := by
  have ha := a.time.toSeconds_lt
  have hb := b.time.toSeconds_lt
  unfold toSeconds at h
  refine DateTime.ext (Date.dayNumber_inj ?_) (TimeOfDay.toSeconds_inj ?_) <;> omega

@[simp] theorem ofSeconds_toSeconds (t : DateTime) : ofSeconds t.toSeconds = t :=
  toSeconds_inj (toSeconds_ofSeconds _)

theorem toSeconds_midnight (d : Date) : (midnight d).toSeconds = 86400 * d.dayNumber := by
  simp [toSeconds, midnight, TimeOfDay.midnight, TimeOfDay.toSeconds]

def addSeconds (t : DateTime) (n : Int) : DateTime :=
  ofSeconds (t.toSeconds + n)

end DateTime

end Almanac
