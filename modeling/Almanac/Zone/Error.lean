import Almanac.Calendar.Instant

/-!
Why a zone identifier or a wall clock cannot be used.
-/

namespace Almanac

inductive ZoneError
  /-- The identifier, as given, names no zone. -/
  | unknownZone (identifier : String)
  /-- The clock of the zone skips this time, and the time an hour later too. -/
  | skippedTime (clock : ClockTime) (zoneName : String)
deriving DecidableEq

namespace ZoneError

def message : ZoneError → String
  | unknownZone identifier => "Unknown timezone: " ++ identifier
  | skippedTime clock zoneName =>
    "Non-existent time (DST gap): " ++ String.ofList clock.extended ++ " in " ++ zoneName

end ZoneError

end Almanac
