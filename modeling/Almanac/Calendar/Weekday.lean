import Almanac.Calendar.Date

/-!
Days of the week and their distance around the week.
-/

namespace Almanac

inductive Weekday
  | monday | tuesday | wednesday | thursday | friday | saturday | sunday
deriving DecidableEq, Repr

namespace Weekday

def index : Weekday → Nat
  | monday => 0
  | tuesday => 1
  | wednesday => 2
  | thursday => 3
  | friday => 4
  | saturday => 5
  | sunday => 6

def ofIndex (n : Nat) : Weekday :=
  match n % 7 with
  | 0 => monday
  | 1 => tuesday
  | 2 => wednesday
  | 3 => thursday
  | 4 => friday
  | 5 => saturday
  | _ => sunday

@[simp] theorem ofIndex_index (w : Weekday) : ofIndex w.index = w := by
  cases w <;> rfl

theorem index_lt (w : Weekday) : w.index < 7 := by
  cases w <;> decide

def daysUntil (a b : Weekday) : Nat :=
  (b.index + 7 - a.index) % 7

def abbreviation : Weekday → String
  | monday => "MO"
  | tuesday => "TU"
  | wednesday => "WE"
  | thursday => "TH"
  | friday => "FR"
  | saturday => "SA"
  | sunday => "SU"

def all : List Weekday :=
  [monday, tuesday, wednesday, thursday, friday, saturday, sunday]

def ofAbbreviation? (s : String) : Option Weekday :=
  all.find? fun w => w.abbreviation == s

end Weekday

namespace Date

/-- Day 0, the first of January 1970, was a Thursday. -/
def weekday (d : Date) : Weekday :=
  Weekday.ofIndex ((d.dayNumber + 3) % 7).toNat

end Date

end Almanac
