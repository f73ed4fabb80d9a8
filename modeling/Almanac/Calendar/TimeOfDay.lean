/-!
Times of day to the second. A time is one of the 86400 seconds of a day.
-/

namespace Almanac

@[ext]
structure TimeOfDay where
  hour : Nat
  minute : Nat
  second : Nat
  hour_lt : hour < 24
  minute_lt : minute < 60
  second_lt : second < 60
deriving DecidableEq

namespace TimeOfDay

def midnight : TimeOfDay :=
  ⟨0, 0, 0, by decide, by decide, by decide⟩

def ofFields? (hour minute second : Nat) : Option TimeOfDay :=
  if h : hour < 24 ∧ minute < 60 ∧ second < 60 then
    some ⟨hour, minute, second, h.1, h.2.1, h.2.2⟩
  else none

def toSeconds (t : TimeOfDay) : Nat :=
  3600 * t.hour + 60 * t.minute + t.second

def ofSeconds (n : Nat) (h : n < 86400) : TimeOfDay :=
  ⟨n / 3600, n % 3600 / 60, n % 60, by omega, by omega, by omega⟩

theorem toSeconds_lt (t : TimeOfDay) : t.toSeconds < 86400 := by
  have := t.hour_lt
  have := t.minute_lt
  have := t.second_lt
  unfold toSeconds
  omega

@[simp] theorem toSeconds_ofSeconds (n : Nat) (h : n < 86400) :
    (ofSeconds n h).toSeconds = n := by
  simp only [toSeconds, ofSeconds]
  omega

@[simp] theorem ofSeconds_toSeconds (t : TimeOfDay) :
    ofSeconds t.toSeconds t.toSeconds_lt = t := by
  have := t.hour_lt
  have := t.minute_lt
  have := t.second_lt
  ext <;> simp only [toSeconds, ofSeconds] <;> omega

theorem toSeconds_inj {a b : TimeOfDay} (h : a.toSeconds = b.toSeconds) : a = b := by
  have ha := ofSeconds_toSeconds a
  have hb := ofSeconds_toSeconds b
  simp only [h] at ha
  exact ha.symm.trans hb

end TimeOfDay

end Almanac
