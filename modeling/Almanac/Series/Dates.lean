import Almanac.Series.Basic
import Almanac.Cursor.Dates

/-!
Series of days: recurrence data that starts at a day, read for the days of its occurrences.
-/

namespace Almanac

structure DateSeries where
  compiled : Series.Compiled
deriving DecidableEq

namespace DateSeries

/-- The series of recurrence data from a day on. Wall clocks are of UTC where no zone is given. -/
def compile (data : String) (start : Date) (zone : Option Zone) (strict : Bool) :
    Except SeriesError DateSeries :=
  (Series.compile data (.wholeDay start) (zone.getD Zone.utc) strict).map mk

def cursor (s : DateSeries) : DateCursor (Cursor (WholeSeconds SetRun)) :=
  ⟨s.compiled.series.cursor⟩

end DateSeries

end Almanac
