import Almanac.Proofs.Cursor.Session
import Almanac.Proofs.RecurrenceSet.Ending
import Almanac.Series.Basic

/-! A series in whole seconds. All instants of a recurrence set begin a second, and so a cursor of
the series keeps and shows seconds: `ahead_cursor` and `values_eq_map_shown`. -/

namespace Almanac.Series

open Supply (toList)

def stream (s : Series) : List Int :=
  toList (SetRun.ofSet s.set)

/-- The instants of the stream that a cursor keeps. -/
def seconds (s : Series) : List Int :=
  Cursor.rising none s.stream

def shown (s : Series) (n : Int) : Moment :=
  Moment.ofSecond n (s.wholeDay || s.wholeDays.contains n)

def values (s : Series) : List Moment :=
  s.cursor.pending

theorem ahead_cursor (s : Series) : s.cursor.ahead = s.seconds.map Instant.ofSecond := by
  have hdrawn : toList s.cursor.source = s.stream.map Instant.ofSecond :=
    Supply.toList_wholeSeconds _
  rw [Cursor.ahead, hdrawn]
  exact Cursor.rising_map (fun _ _ => Instant.ofSecond_le_iff) none s.stream

theorem shown_cursor (s : Series) (n : Int) : s.cursor.shown (.ofSecond n) = s.shown n := by
  have hlisted : (s.wholeDays.map Instant.ofSecond).contains (.ofSecond n) =
      s.wholeDays.contains n := by
    rw [Bool.eq_iff_iff, List.contains_iff_mem, List.contains_iff_mem,
      List.mem_map_of_injective Instant.ofSecond_injective]
  show Moment.ofSecond n (s.wholeDay || (s.wholeDays.map Instant.ofSecond).contains _) = _
  rw [hlisted, shown]

theorem values_eq_map_shown (s : Series) : s.values = s.seconds.map s.shown := by
  rw [values, Cursor.pending_of_none rfl, ahead_cursor, List.map_map]
  exact List.map_congr_left fun n _ => s.shown_cursor n

theorem fst_next_cursor (s : Series) (k : Nat) : (s.cursor.after k).next.1 = s.values[k]? :=
  Cursor.fst_next_after s.cursor k

section Draw

variable {s : Series} {n : Nat} {instants : List Int}

theorem stream_of_draw (h : Supply.draw n (SetRun.ofSet s.set) = instants)
    (hend : instants.length < n) : s.stream = instants :=
  (Supply.toList_eq_draw (h ▸ hend)).trans h

theorem fst_next_of_draw (h : Supply.draw n (SetRun.ofSet s.set) = instants)
    (hend : instants.length < n) (k : Nat) :
    (s.cursor.after k).next.1 = ((Cursor.rising none instants).map s.shown)[k]? := by
  rw [fst_next_cursor, values_eq_map_shown, seconds, stream_of_draw h hend]

end Draw

end Almanac.Series
