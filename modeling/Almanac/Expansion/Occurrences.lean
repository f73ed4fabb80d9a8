import Almanac.Expansion.DaySet
import Almanac.Zone.Basic

/-!
The occurrences of one period: its days, the times of those days, the positions that are picked out
of them, and the instants at which a clock shows them.
-/

namespace Almanac.Expansion

def timesOf (hours minutes seconds : List Int) : List Int :=
  hours.flatMap fun h => minutes.flatMap fun m => seconds.map fun s => 3600 * h + 60 * m + s

/-- The times of a period, in order. A time of the counter that is not listed gives none. -/
def timeSet (r : Rule) (c : Counter) : List Int :=
  let hour := [Int.ofNat c.hour]
  let minute := [Int.ofNat c.minute]
  let second := [Int.ofNat c.second]
  match r.frequency with
  | .hourly => if hourListed r c then timesOf hour r.minutes r.seconds else []
  | .minutely => if minuteListed r c then timesOf hour minute r.seconds else []
  | .secondly => if secondListed r c then timesOf hour minute second else []
  | _ => timesOf r.hours r.minutes r.seconds

/-- The second at which the clock of a zone shows a time of a day. If there is none, or two, the time
is counted from the midnight of that day. -/
def instantOf? (zone : Zone) (day : Date) (time : Int) : Option Int :=
  let midnight := 86400 * day.dayNumber
  match zone.readingOf? (midnight + time) with
  | some n => some n
  | none => (zone.readingOf? midnight).map (· + time)

def element? {α : Type} (xs : List α) (i : Int) : Option α :=
  if 0 ≤ i then xs[i.toNat]? else xs[(i + xs.length).toNat]?

/-- The day and the time at a position among all times of all days; negative positions count days
from the last one. -/
def pairAt? (days : List Date) (times : List Int) (position : Int) : Option (Date × Int) :=
  let p := if 0 < position then position - 1 else position
  let n : Int := times.length
  let dayIndex := p / n
  if n = 0 ∨ dayIndex + days.length < 0 then none
  else do
    let day ← element? days dayIndex
    let time ← times[(p % n).toNat]?
    return (day, time)

def occurrences (r : Rule) (zone : Zone) (days : List Date) (times : List Int) : List Int :=
  if r.setPositions.isEmpty then
    days.flatMap fun d => times.filterMap fun t => instantOf? zone d t
  else
    let picked := r.setPositions.filterMap fun p =>
      (pairAt? days times p).bind fun (d, t) => instantOf? zone d t
    (picked.mergeSort fun a b => decide (a ≤ b)).eraseReps

end Almanac.Expansion
