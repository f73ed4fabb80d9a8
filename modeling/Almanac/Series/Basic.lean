import Almanac.Series.Contribution
import Almanac.RecurrenceSet.Run
import Almanac.Cursor.Basic
import Almanac.Line.Unfold

/-!
From recurrence data to a series that hands out cursors. Lines are read in turn; one that is refused
is passed over, or, when reading is strict, ends the reading.
-/

namespace Almanac

structure Series where
  set : RecurrenceSet
  wholeDay : Bool
  /-- The seconds at which the days begin that are listed without a time. -/
  wholeDays : List Int
deriving DecidableEq

namespace Series

def ofFrame (f : Frame) : Series :=
  ⟨{ start := f.start, zone := f.zone }, f.wholeDay, []⟩

def addDates (s : Series) (ds : List PlacedDate) : Series :=
  { s with
    set := { s.set with dates := s.set.dates ++ ds.map PlacedDate.second }
    wholeDays := s.wholeDays ++ (ds.filter PlacedDate.wholeDay).map PlacedDate.second }

def add (s : Series) : Contribution → Series
  | .rule r => { s with set := { s.set with rules := s.set.rules ++ [r] } }
  | .exclusionRule r =>
    { s with set := { s.set with exclusionRules := s.set.exclusionRules ++ [r] } }
  | .dates ds => s.addDates ds
  | .exclusionDates ds =>
    let exclusionDates := s.set.exclusionDates ++ ds.map PlacedDate.second
    { s with set := { s.set with exclusionDates } }
  | .nothing => s

def cursor (s : Series) : Cursor (WholeSeconds SetRun) :=
  Cursor.ofSource ⟨SetRun.ofSet s.set⟩ s.wholeDay (s.wholeDays.map Instant.ofSecond)

def cursorOfSet (set : RecurrenceSet) (wholeDay : Bool) : Cursor (WholeSeconds SetRun) :=
  Cursor.ofSource ⟨SetRun.ofSet set⟩ wholeDay []

/-- What reading has come to: the series and the lines that were passed over. -/
structure Compiled where
  series : Series
  skipped : List LineError
deriving DecidableEq

def addLines (f : Frame) (strict : Bool) (resolver : Resolver) (compiled : Compiled) :
    List LogicalLine → Except SeriesError Compiled
  | [] => .ok compiled
  | line :: lines =>
    match Contribution.ofLine f resolver line.text line.number with
    | (.ok contribution, resolver) =>
      addLines f strict resolver
        { compiled with series := compiled.series.add contribution } lines
    | (.error .brokenOff, _) => .error .brokenOff
    | (.error (.refused e), resolver) =>
      if strict then .error (.line (e.withContent line.text))
      else addLines f strict resolver { compiled with skipped := compiled.skipped ++ [e] } lines

/-- The series of recurrence data that starts at a day, or at a wall clock of the governing zone. -/
def compile (data : String) (start : Moment) (governing : Zone) (strict : Bool) :
    Except SeriesError Compiled :=
  match Frame.ofStart start governing with
  | .error e => .error (.zone e)
  | .ok f => addLines f strict {} ⟨ofFrame f, []⟩ (LogicalLine.split data)

end Series

end Almanac
