import Almanac.Proofs.Expansion.Order
import Almanac.Proofs.Series.Occurrences
import Almanac.Proofs.Series.Repeats

/-! Series on clocks that place wall times in order. Every rule of such a series gives its instants
in order, so that a cursor loses none of them: `ascending_of_compile` and `yields_of_ascending`. A
series of days is followed on such a clock whatever the governing zone: `yields_of_wholeDay`. -/

namespace Almanac

theorem Frame.placesInOrder_of_wholeDay {f : Frame} (h : f.wholeDay = true) :
    Expansion.PlacesInOrder f.zone := by
  rw [Frame.zone, if_pos h]
  exact Expansion.placesInOrder_of_steady rfl

theorem Contribution.ascending_of_ofLine {f : Frame} {resolver : Resolver} {text : String}
    {number : Nat} {c : Contribution} (hzone : Expansion.PlacesInOrder f.zone)
    (h : (ofLine f resolver text number).1 = .ok c) : c.Ascending f :=
  fun _ hr => Expansion.pairwise_ofRule hzone (timesInOrder_of_ofLine h hr) f.start

namespace Series

theorem ascending_of_compile {f : Frame} {data : String} {start : Moment} {governing : Zone}
    {strict : Bool} {compiled : Compiled} (hframe : Frame.ofStart start governing = .ok f)
    (hcompile : compile data start governing strict = .ok compiled)
    (hzone : Expansion.PlacesInOrder f.zone) : compiled.series.set.Ascending := by
  rw [series_of_compile hframe hcompile]
  refine ascending_foldl (fun c hc => ?_) (startsIn_ofFrame f) (fun r hr => by simp [ofFrame] at hr)
  obtain ⟨l, -, hl⟩ := List.mem_filterMap.1 hc
  exact Contribution.ascending_of_ofLine hzone (LogicalLine.contribution?_eq_some_iff.1 hl)

theorem yields_of_ascending {s : Series} (h : s.set.Ascending) {n : Int} (hn : n ∈ s.stream) :
    s.cursor.Yields (.ofSecond n) := by
  rw [yields_iff_mem_seconds, seconds_of_ascending h, Finset.mem_sort]
  exact (RecurrenceSet.mem_toList_ofSet h).1 hn

/-- A cursor of a series of days hands out every instant of its set. -/
theorem yields_of_wholeDay {data : String} {day : Date} {governing : Zone} {strict : Bool}
    {compiled : Compiled} (h : compile data (.wholeDay day) governing strict = .ok compiled) {n : Int}
    (hn : n ∈ compiled.series.stream) : compiled.series.cursor.Yields (.ofSecond n) := by
  have hclock := Frame.placesInOrder_of_wholeDay
    (f := ⟨(DateTime.midnight day).toSeconds, true, governing⟩) rfl
  exact yields_of_ascending (ascending_of_compile rfl h hclock) hn

end Series

end Almanac
