import Almanac.Calendar.Instant

/-!
The values of a recurrence: a whole day, or a second in UTC. On the timeline a whole day stands at
its own midnight. `compare` sorts by the timeline and puts a whole day before the second at its
midnight; `Precedes` looks at the timeline alone.
-/

namespace Almanac

inductive Moment
  | wholeDay (day : Date)
  | timed (dateTime : DateTime)
deriving DecidableEq

namespace Moment

def ofDateFields? (year : Int) (month day : Nat) : Option Moment :=
  (Date.ofFields? year month day).map wholeDay

def ofFields? (year : Int) (month day hour minute second : Nat) : Option Moment := do
  let date ← Date.ofFields? year month day
  let time ← TimeOfDay.ofFields? hour minute second
  return timed ⟨date, time⟩

def date : Moment → Date
  | wholeDay d => d
  | timed t => t.date

def time? : Moment → Option TimeOfDay
  | wholeDay _ => none
  | timed t => some t.time

def isWholeDay : Moment → Bool
  | wholeDay _ => true
  | timed _ => false

def timeline : Moment → DateTime
  | wholeDay d => DateTime.midnight d
  | timed t => t

/-- Seconds since the start of 1970. -/
def second (m : Moment) : Int :=
  m.timeline.toSeconds

def toInstant (m : Moment) : Instant :=
  Instant.ofSecond m.second

/-- The second, or the day, that a UTC second lies in. -/
def ofSecond (n : Int) (wholeDay : Bool) : Moment :=
  let t := DateTime.ofSeconds n
  if wholeDay then Moment.wholeDay t.date else timed t

def ofInstant (i : Instant) (wholeDay : Bool) : Moment :=
  ofSecond i.second wholeDay

def Precedes (a b : Moment) : Prop :=
  a.second < b.second

instance (a b : Moment) : Decidable (a.Precedes b) :=
  inferInstanceAs (Decidable (_ < _))

def rank : Moment → Nat
  | wholeDay _ => 0
  | timed _ => 1

instance : Ord Moment where
  compare a b := (compare a.second b.second).then (compare a.rank b.rank)

instance : LE Moment where
  le a b := (compare a b).isLE

instance (a b : Moment) : Decidable (a ≤ b) :=
  inferInstanceAs (Decidable ((compare a b).isLE = true))

def sorted (ms : List Moment) : List Moment :=
  ms.mergeSort fun a b => decide (a ≤ b)

def written : Moment → List Char
  | wholeDay d => d.basic
  | timed t => t.basic ++ ['Z']

instance : ToString Moment := ⟨fun m => String.ofList m.written⟩

end Moment

end Almanac
