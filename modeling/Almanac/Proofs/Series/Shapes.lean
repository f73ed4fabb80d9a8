import Almanac.Proofs.Calendar.Moment
import Almanac.Proofs.Series.Cursors
import Almanac.Proofs.Series.Strictness

/-! The shapes of values. Which instants a cursor walks along is settled by the recurrence set alone.
Each of them is shown as its day in a series of whole days, and otherwise as itself, unless it is the
midnight of a day that an accepted line lists without a time: `next_shape`. -/

namespace Almanac

namespace Cursor

variable {σ : Type} [Supply σ Instant]

/-- The instant behind the value that is handed out after `k` others. -/
def instantAt? (c : Cursor σ) (k : Nat) : Option Instant :=
  (c.after k).next.1.bind fun _ => (c.after (k + 1)).last

variable [Supply.EndsForGood σ]

theorem instantAt?_eq {c : Cursor σ} (h : c.peeked = none) (k : Nat) :
    c.instantAt? k = c.ahead[k]? := by
  rw [instantAt?, fst_next_after_of_none h]
  cases hk : c.ahead[k]? with
  | none => rfl
  | some t => exact last_after h hk

theorem fst_next_eq_shown {c : Cursor σ} (h : c.peeked = none) (k : Nat) :
    (c.after k).next.1 = (c.instantAt? k).map c.shown := by
  rw [instantAt?_eq h, fst_next_after_of_none h]

end Cursor

namespace Series

variable {data : String} {start : Moment} {governing : Zone} {strict : Bool} {f : Frame}
  {c : Compiled}

/-- A line that was accepted lists the day, without a time, among the dates to be added. -/
def ListsDay (data : String) (c : Compiled) (d : Date) : Prop :=
  ∃ l ∈ linesWithout data c.skipped, l.AddsDay d

theorem mem_wholeDays_iff_listsDay (h : compile data start governing strict = .ok c) {n : Int} :
    n ∈ c.series.wholeDays ↔ ∃ d, ListsDay data c d ∧ n = (DateTime.midnight d).toSeconds := by
  obtain ⟨f, hframe⟩ := exists_frame_of_compile h
  rw [mem_wholeDays_iff hframe h]
  simp only [ListsDay, mem_linesWithout_iff hframe h]
  constructor
  · rintro ⟨l, hl, haccepted, d, hday, hn⟩
    exact ⟨d, ⟨l, ⟨hl, haccepted⟩, hday⟩, hn⟩
  · rintro ⟨d, ⟨l, ⟨hl, haccepted⟩, hday⟩, hn⟩
    exact ⟨l, hl, haccepted, d, hday, hn⟩

theorem wholeDay_of_compile (h : compile data start governing strict = .ok c) :
    c.series.wholeDay = start.isWholeDay := by
  obtain ⟨f, hframe⟩ := exists_frame_of_compile h
  have hshape : f.wholeDay = start.isWholeDay := by
    cases start with
    | wholeDay d =>
      rw [← Except.ok.inj hframe]
      rfl
    | timed wall =>
      obtain ⟨i, -, rfl⟩ := map_eq_ok_iff.1 hframe
      rfl
  rw [series_of_compile hframe h, wholeDay_foldl, ← hshape]
  rfl

theorem shown_of_timed (h : compile data start governing strict = .ok c)
    (hstart : start.isWholeDay = false) (n : Int) :
    (∀ d, c.series.shown n = .wholeDay d ↔
      ListsDay data c d ∧ n = (DateTime.midnight d).toSeconds) ∧
    (c.series.shown n = .timed (DateTime.ofSeconds n) ↔
      ∀ d, ListsDay data c d → n ≠ (DateTime.midnight d).toSeconds) := by
  have hshown : c.series.shown n = Moment.ofSecond n (c.series.wholeDays.contains n) := by
    rw [shown, wholeDay_of_compile h, hstart, Bool.false_or]
  have hlisted : c.series.wholeDays.contains n = true ↔
      ∃ d, ListsDay data c d ∧ n = (DateTime.midnight d).toSeconds := by
    rw [List.contains_iff_mem, mem_wholeDays_iff_listsDay h]
  rw [hshown]
  constructor
  · intro d
    rw [Moment.ofSecond_eq_wholeDay_iff, hlisted]
    constructor
    · -- the midnight of two days would be that of one
      rintro ⟨⟨d', hlists, rfl⟩, rfl⟩
      rw [DateTime.ofSeconds_toSeconds]
      exact ⟨hlists, rfl⟩
    · rintro ⟨hlists, rfl⟩
      rw [DateTime.ofSeconds_toSeconds]
      exact ⟨⟨d, hlists, rfl⟩, rfl⟩
  · rw [Moment.ofSecond_eq_timed_iff, ← Bool.not_eq_true, hlisted]
    simp

theorem shown_of_wholeDay (h : compile data start governing strict = .ok c)
    (hstart : start.isWholeDay = true) (n : Int) :
    c.series.shown n = .wholeDay (DateTime.ofSeconds n).date := by
  rw [shown, wholeDay_of_compile h, hstart, Bool.true_or]
  rfl

theorem shown_cursorOfSet (set : RecurrenceSet) (wholeDay : Bool) :
    (cursorOfSet set wholeDay).shown = fun t => Moment.ofInstant t wholeDay := by
  funext t
  show Moment.ofInstant t (wholeDay || [].contains t) = _
  rw [List.contains_nil, Bool.or_false]

theorem exists_second_of_instantAt? {s : Series} {k : Nat} {t : Instant}
    (h : s.cursor.instantAt? k = some t) : ∃ n, t = .ofSecond n := by
  rw [Cursor.instantAt?_eq rfl, ahead_cursor, List.getElem?_map, Option.map_eq_some_iff] at h
  obtain ⟨n, -, rfl⟩ := h
  exact ⟨n, rfl⟩

/-- A value shows the instant behind it: as its day if the series starts with a day, and otherwise
as a day exactly if it is the midnight of a day that an accepted line lists. The instants are those
of any other cursor over the same set. -/
theorem next_shape (h : compile data start governing strict = .ok c) :
    (∀ k m, (c.series.cursor.after k).next.1 = some m →
      ∃ n, c.series.cursor.instantAt? k = some (.ofSecond n) ∧
        (start.isWholeDay = true → m = .wholeDay (DateTime.ofSeconds n).date) ∧
        (start.isWholeDay = false →
          (∀ d, m = .wholeDay d ↔ ListsDay data c d ∧ n = (DateTime.midnight d).toSeconds) ∧
          (m = .timed (DateTime.ofSeconds n) ↔
            ∀ d, ListsDay data c d → n ≠ (DateTime.midnight d).toSeconds))) ∧
    ∀ (s : Series) (wholeDay : Bool) (k : Nat),
      (cursorOfSet s.set wholeDay).instantAt? k = s.cursor.instantAt? k ∧
        ((cursorOfSet s.set wholeDay).after k).next.1 =
          (s.cursor.instantAt? k).map fun t => Moment.ofInstant t wholeDay := by
  refine ⟨?shapes, ?instants⟩
  case shapes =>
    intro k m hm
    rw [Cursor.fst_next_eq_shown rfl, Option.map_eq_some_iff] at hm
    obtain ⟨t, ht, rfl⟩ := hm
    obtain ⟨n, rfl⟩ := exists_second_of_instantAt? ht
    rw [shown_cursor]
    exact ⟨n, ht, fun hstart => shown_of_wholeDay h hstart n,
      fun hstart => shown_of_timed h hstart n⟩
  case instants =>
    intro s wholeDay k
    -- both draw on the set alone, whatever they show
    have hinstant : (cursorOfSet s.set wholeDay).instantAt? k = s.cursor.instantAt? k := by
      rw [Cursor.instantAt?_eq rfl, Cursor.instantAt?_eq rfl]
      rfl
    refine ⟨hinstant, ?_⟩
    rw [Cursor.fst_next_eq_shown rfl, hinstant, shown_cursorOfSet]

/-- A rule gives a day that is listed, and a day that is listed on a line that is refused. -/
theorem next_shape_listed :
    let data := "\n".intercalate
      ["RRULE:FREQ=DAILY;COUNT=3", "RDATE:20240103", "RDATE;VALUE=DATE:20240104,5"]
    let start := Moment.ofSecond 1704153600 false
    let listed := (DateTime.ofSeconds 1704240000).date
    let unlisted := (DateTime.ofSeconds 1704326400).date
    ∃ c, compile data start Zone.utc false = .ok c ∧
      (c.series.cursor.after 1).next.1 = some (.wholeDay listed) ∧ ListsDay data c listed ∧
      (c.series.cursor.after 2).next.1 = some (Moment.ofSecond 1704326400 false) ∧
      ¬ListsDay data c unlisted := by
  intro data start listed unlisted
  let instants : List Int := [1704153600, 1704240000, 1704240000, 1704326400]
  let part (c : Compiled) :=
    (Supply.draw 5 (SetRun.ofSet c.series.set), c.series.wholeDay, c.series.wholeDays)
  obtain ⟨c, hcompile, hpart⟩ : ∃ c, compile data start Zone.utc false = .ok c ∧
      part c = (instants, false, [1704240000]) := exists_ok_of_map_toOption (by decide +kernel)
  simp only [part, Prod.mk.injEq] at hpart
  obtain ⟨hgiven, hshape, hlisted⟩ := hpart
  have hshown : c.series.shown = fun n => Moment.ofSecond n (false || [1704240000].contains n) := by
    funext n
    rw [shown, hshape, hlisted]
  have hnext (k : Nat) := fst_next_of_draw hgiven (by decide) k
  rw [hshown] at hnext
  have hday : (c.series.cursor.after 1).next.1 = some (.wholeDay listed) := by
    rw [hnext]
    decide +kernel
  have htimed : (c.series.cursor.after 2).next.1 = some (Moment.ofSecond 1704326400 false) := by
    rw [hnext]
    decide +kernel
  refine ⟨c, hcompile, hday, ?_, htimed, ?_⟩
  · obtain ⟨n, -, -, hshape⟩ := (next_shape hcompile).1 1 _ hday
    exact (((hshape rfl).1 listed).1 rfl).1
  · obtain ⟨n, hn, -, hshape⟩ := (next_shape hcompile).1 2 _ htimed
    rw [Cursor.instantAt?_eq rfl, ahead_cursor, seconds, stream_of_draw hgiven (by decide)] at hn
    have hlast : Instant.ofSecond 1704326400 = .ofSecond n :=
      Option.some.inj ((by decide +kernel : _ = _).trans hn)
    obtain rfl : 1704326400 = n := Instant.ofSecond_injective hlast
    intro hlists
    exact ((hshape rfl).2.1 rfl) unlisted hlists (by decide +kernel)

end Series

end Almanac
