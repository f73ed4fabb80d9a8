import Almanac.Proofs.Series.ListedDays
import Almanac.Proofs.Series.Stream

/-! Cursors over a compiled series are places in one list of values, which each of them moves
through on its own: `answers_of_compile`. -/

namespace Almanac.Series

open OccurrenceCursor (advanceTo)

theorem inOrder_values {s : Series} (h : ∀ n ∈ s.wholeDays, n % 86400 = 0) :
    Moment.InOrder s.values :=
  Cursor.inOrder_pending (List.forall_mem_map.2 h) rfl

theorem follows_cursor (s : Series) : Cursor.Follows s.cursor (⟨0⟩ : Pointer s.values) :=
  rfl

/-- In every session the cursors of a compiled series answer as places in one fixed sequence do, the
sequence that a cursor hands out when it is asked for nothing but values. Advancing takes away
exactly the values that precede the target. -/
theorem answers_of_compile {data : String} {start : Moment} {governing : Zone} {strict : Bool}
    {compiled : Compiled} (h : compile data start governing strict = .ok compiled) :
    ∃ sequence : List Moment,
      (∀ k, (compiled.series.cursor.after k).next.1 = sequence[k]?) ∧
      (∀ requests, answers compiled.series.cursor [] requests =
        answers (⟨0⟩ : Pointer sequence) [] requests) ∧
      ∀ (p : Pointer sequence) (target : Moment),
        (advanceTo target p).1 = (p.rest.filter fun m => decide (m.Precedes target)).length ∧
        (advanceTo target p).2.rest = p.rest.filter fun m => decide (¬m.Precedes target) := by
  have horder : Moment.InOrder compiled.series.values := inOrder_values (midnight_of_compile h)
  refine ⟨compiled.series.values, fst_next_cursor compiled.series, fun requests => ?_,
    fun p target => ⟨?_, ?_⟩⟩
  · exact (Cursor.inStep_follows horder).answers_eq (follows_cursor compiled.series)
      List.Forall₂.nil requests
  · exact List.countP_eq_length_filter
  · exact Pointer.rest_advanceTo horder target p

/-- Three cursors over a daily rule and a listed day. -/
theorem answers_of_compile_mixed :
    let data := "RRULE:FREQ=DAILY;COUNT=3\nRDATE;VALUE=DATE:20240102"
    let start := Moment.ofSecond 1704099600 false
    let day := Moment.ofSecond 1704153600 true
    let second := Moment.ofSecond 1704186000 false
    ∃ compiled, compile data start Zone.utc true = .ok compiled ∧
      answers compiled.series.cursor []
          [.iter, .operate 0 .next, .clone 0, .operate 1 (.advanceTo second), .operate 1 .next,
            .operate 0 .hasNext, .operate 0 .next, .iter, .operate 2 .next] =
        [.made 0, .value (some start), .made 1, .discarded 1, .value (some second),
          .isLeft true, .value (some day), .made 2, .value (some start)] := by
  intro data start day second
  let f : Frame := ⟨1704099600, false, Zone.utc⟩
  obtain ⟨compiled, hcompile, hday, hdays, hgiven⟩ : ∃ compiled,
      compile data start Zone.utc true = .ok compiled ∧
        compiled.series.wholeDay = false ∧ compiled.series.wholeDays = [1704153600] ∧
        Supply.draw 5 (SetRun.ofSet compiled.series.set) =
          [1704099600, 1704153600, 1704186000, 1704272400] :=
    ⟨⟨(contributions f (LogicalLine.split data)).foldl add (ofFrame f), []⟩, by decide +kernel⟩
  obtain ⟨sequence, hnext, hanswers, -⟩ := answers_of_compile hcompile
  have hsequence : sequence = [start, day, second, Moment.ofSecond 1704272400 false] := by
    have hvalues : sequence = compiled.series.values :=
      List.ext_getElem? fun k => (hnext k).symm.trans (fst_next_cursor compiled.series k)
    have hshown (n : Int) : compiled.series.shown n =
        Moment.ofSecond n (false || [1704153600].contains n) := by
      rw [shown, hday, hdays]
    rw [hvalues, values_eq_map_shown, seconds, stream_of_draw hgiven (by decide), funext hshown]
    decide +kernel
  refine ⟨compiled, hcompile, ?_⟩
  rw [hanswers, hsequence]
  decide +kernel

end Almanac.Series
