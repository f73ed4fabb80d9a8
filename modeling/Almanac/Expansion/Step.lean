import Almanac.Rule.Basic

/-!
From one period of a rule to the next. Periods of a day or more move by the calendar. Shorter ones
move by the clock until the hour, the minute and the second are among those listed; whole hours that
the minutes carry are taken in one stride, and so are whole minutes that the seconds carry.
-/

namespace Almanac.Expansion

structure Counter where
  date : Date
  hour : Nat
  minute : Nat
  second : Nat
deriving DecidableEq

namespace Counter

def ofDateTime (t : DateTime) : Counter :=
  ⟨t.date, t.time.hour, t.time.minute, t.time.second⟩

end Counter

/-- Rules are not followed beyond this year. -/
def lastYear : Int := 10000

/-- The largest number of months, from January on, that is counted up to. -/
def monthLimit : Nat := 65535

def moveTo (date : Date) (c : Counter) : Option Counter :=
  if lastYear < date.year ∧ date.year ≠ c.date.year then none else some { c with date }

def addDays (n : Int) (c : Counter) : Option Counter :=
  moveTo (c.date.addDays n) c

def firstOfMonth (d : Date) (n : Nat) : Date :=
  let m := d.month - 1 + n
  let year := d.year + (m / 12 : Nat)
  Date.ofDayNumber (Date.yearStart year + daysBeforeMonth year (m % 12 + 1))

def addYears (n : Nat) (c : Counter) : Option Counter :=
  moveTo (firstOfMonth c.date (12 * n)) c

def addMonths (n : Nat) (c : Counter) : Option Counter :=
  if monthLimit < c.date.month + n then none
  else moveTo (firstOfMonth c.date n) c

def addWeeks (weekStart : Weekday) (n : Nat) (c : Counter) : Option Counter :=
  addDays (7 * n - weekStart.daysUntil c.date.weekday) c

/-- The largest multiple of `interval` that does not go beyond `rest`. -/
def strideWithin (interval rest : Nat) : Nat :=
  rest / interval * interval

/-- Moves on by `move` until `accept` holds, trying `tries` times. -/
def seek (move : Counter → Option Counter) (accept : Counter → Bool) : Nat → Counter → Option Counter
  | 0, _ => none
  | tries + 1, c =>
    match move c with
    | none => none
    | some c => if accept c then some c else seek move accept tries c

def isListed (ns : List Int) (n : Nat) : Bool :=
  ns.isEmpty || ns.contains (Int.ofNat n)

def hourListed (r : Rule) (c : Counter) : Bool :=
  isListed r.hours c.hour

def minuteListed (r : Rule) (c : Counter) : Bool :=
  hourListed r c && isListed r.minutes c.minute

def secondListed (r : Rule) (c : Counter) : Bool :=
  minuteListed r c && isListed r.seconds c.second

def moveHours (interval : Nat) (c : Counter) : Option Counter :=
  let hour := c.hour + interval
  if hour < 24 then some { c with hour }
  else addDays (hour / 24 : Nat) { c with hour := hour % 24 }

/-- Moves to the next listed hour in strides of `interval`. After a day without occurrences the rest
of the day is passed over first. There are 24 hours to try. -/
def nextHour (r : Rule) (dayIsEmpty : Bool) (interval : Nat) (c : Counter) : Option Counter :=
  let skipped := if dayIsEmpty then strideWithin interval (23 - c.hour) else 0
  seek (moveHours interval) (hourListed r) 24 { c with hour := c.hour + skipped }

def moveMinutes (r : Rule) (dayIsEmpty : Bool) (interval : Nat) (c : Counter) : Option Counter :=
  let minute := c.minute + interval
  if minute < 60 then some { c with minute }
  else nextHour r dayIsEmpty (minute / 60) { c with minute := minute % 60 }

def nextMinute (r : Rule) (dayIsEmpty : Bool) (interval : Nat) (c : Counter) : Option Counter :=
  let skipped :=
    if dayIsEmpty then strideWithin interval (1439 - (60 * c.hour + c.minute)) else 0
  seek (moveMinutes r dayIsEmpty interval) (minuteListed r) 1440
    { c with minute := c.minute + skipped }

def moveSeconds (r : Rule) (dayIsEmpty : Bool) (interval : Nat) (c : Counter) : Option Counter :=
  let second := c.second + interval
  if second < 60 then some { c with second }
  else nextMinute r dayIsEmpty (second / 60) { c with second := second % 60 }

def nextSecond (r : Rule) (dayIsEmpty : Bool) (interval : Nat) (c : Counter) : Option Counter :=
  let skipped :=
    if dayIsEmpty then
      strideWithin interval (86399 - (3600 * c.hour + 60 * c.minute + c.second))
    else 0
  seek (moveSeconds r dayIsEmpty interval) (secondListed r) 86400
    { c with second := c.second + skipped }

def nextPeriod (r : Rule) (dayIsEmpty : Bool) (c : Counter) : Option Counter :=
  match r.frequency with
  | .yearly => addYears r.interval c
  | .monthly => addMonths r.interval c
  | .weekly => addWeeks r.weekStart r.interval c
  | .daily => addDays r.interval c
  | .hourly => nextHour r dayIsEmpty r.interval c
  | .minutely => nextMinute r dayIsEmpty r.interval c
  | .secondly => nextSecond r dayIsEmpty r.interval c

end Almanac.Expansion
