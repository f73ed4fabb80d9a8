import Almanac.Series.Basic
import Almanac.Cursor.ZonedTimes

/-!
Series of zoned times: recurrence data that starts at an instant, followed on the clock of a zone.
-/

namespace Almanac

structure ZonedSeries where
  compiled : Series.Compiled
  governing : Zone
  output : OutputZone := .utc
deriving DecidableEq

namespace ZonedSeries

/-- The series of recurrence data from an instant on. Where no zone is given, the zone of the start
governs. -/
def compile (data : String) (start : ZonedTime) (zone : Option Zone) (strict : Bool) :
    Except SeriesError ZonedSeries :=
  let governing := zone.getD start.zone
  (Series.compile data (start.moment governing) governing strict).map fun compiled =>
    { compiled, governing }

def cursor (s : ZonedSeries) : ZonedCursor (Cursor (WholeSeconds SetRun)) :=
  { inner := s.compiled.series.cursor, governing := s.governing, output := s.output }

end ZonedSeries

end Almanac
