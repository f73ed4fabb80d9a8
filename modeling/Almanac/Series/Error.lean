import Almanac.Line.Error
import Almanac.Zone.Error

/-!
Why recurrence data does not become a series.
-/

namespace Almanac

/-- A line is refused, or it breaks reading off and nothing can be said about it. -/
inductive LineFailure
  | refused (e : LineError)
  | brokenOff
deriving DecidableEq

inductive SeriesError
  | line (e : LineError)
  | zone (e : ZoneError)
  | brokenOff
deriving DecidableEq

namespace SeriesError

def message : SeriesError → String
  | line e => "Parse error: " ++ e.message
  | zone e => "Timezone error: " ++ e.message
  | brokenOff => ""

end SeriesError

end Almanac
