import Almanac.Zone.Basic
import Almanac.Zone.Error

/-!
Placing a wall clock on the timeline. A time shown twice is the earlier one; a time that the clock
skips is moved one hour on.
-/

namespace Almanac.Zone

def place (z : Zone) (wall : ClockTime) : Except ZoneError Instant :=
  let shown (n : Int) : Instant := ⟨n, wall.nanosecond, wall.nanosecond_lt⟩
  match z.readings wall.dateTime with
  | n :: _ => .ok (shown n)
  | [] =>
    match z.readings (wall.dateTime.addSeconds 3600) with
    | n :: _ => .ok (shown n)
    | [] => .error (.skippedTime wall z.name)

end Almanac.Zone
