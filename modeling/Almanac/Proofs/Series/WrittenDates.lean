import Almanac.Proofs.Cursor.Fixed
import Almanac.Proofs.Line.WrittenValues
import Almanac.Proofs.RecurrenceSet.Rising
import Almanac.Proofs.Series.Shapes

/-! Values written out and read back. The line that lists the texts of values is read as these
values, and the cursor of the series that holds them hands out what a fixed cursor does, but each
instant once: `next_written`. -/

namespace Almanac

namespace Moment

/-- The value is the second at which one of the listed whole days starts. -/
def startsDayOf (vs : List Moment) (v : Moment) : Bool :=
  vs.any fun w => w.isWholeDay && v == timed (DateTime.midnight w.date)

/-- The values without repeats and without the seconds at which whole days of the list start. -/
def distinct (vs : List Moment) : List Moment :=
  vs.dedup.filter fun v => !v.startsDayOf vs

theorem startsDayOf_eq_true_iff {vs : List Moment} {v : Moment} :
    v.startsDayOf vs = true ↔ ∃ d, wholeDay d ∈ vs ∧ v = timed (DateTime.midnight d) := by
  simp only [startsDayOf, List.any_eq_true, Bool.and_eq_true, beq_iff_eq]
  constructor
  · rintro ⟨w, hw, hday, rfl⟩
    cases w with
    | wholeDay d => exact ⟨d, hw, rfl⟩
    | timed t => exact absurd hday Bool.false_ne_true
  · rintro ⟨d, hd, rfl⟩
    exact ⟨wholeDay d, hd, rfl, rfl⟩

theorem mem_distinct {vs : List Moment} {v : Moment} :
    v ∈ distinct vs ↔ v ∈ vs ∧ ∀ d, wholeDay d ∈ vs → v ≠ timed (DateTime.midnight d) := by
  rw [distinct, List.mem_filter, List.mem_dedup, Bool.not_eq_true', ← Bool.not_eq_true,
    startsDayOf_eq_true_iff]
  simp

theorem pairwise_distinct {vs : List Moment} (h : vs.Pairwise (· ≤ ·)) :
    (distinct vs).Pairwise fun a b => a.second < b.second := by
  have hsub : (distinct vs).Sublist vs :=
    List.filter_sublist.trans (List.dedup_sublist vs)
  have hnodup : (distinct vs).Nodup := (List.nodup_dedup vs).filter _
  refine (List.Pairwise.and_mem.1 ((h.sublist hsub).and hnodup)).imp ?_
  rintro a b ⟨ha, hb, hle, hne⟩
  rcases le_iff.1 hle with hlt | ⟨hsame, hrank⟩
  · exact hlt
  · -- at one place on the timeline only a day can come first, and the second there is taken out
    exfalso
    have htimeline : a.timeline = b.timeline := DateTime.toSeconds_inj hsame
    cases a with
    | wholeDay d =>
      cases b with
      | wholeDay e => exact hne (timeline_inj htimeline rfl)
      | timed t =>
        obtain rfl : DateTime.midnight d = t := htimeline
        exact (mem_distinct.1 hb).2 d (mem_distinct.1 ha).1 rfl
    | timed t =>
      cases b with
      | wholeDay e => exact absurd hrank (Nat.not_succ_le_zero 0)
      | timed u => exact hne (timeline_inj htimeline rfl)

theorem exists_mem_distinct {vs : List Moment} {v : Moment} (h : v ∈ vs) :
    ∃ w ∈ distinct vs, w.second = v.second := by
  by_cases hday : ∃ d, wholeDay d ∈ vs ∧ v = timed (DateTime.midnight d)
  · obtain ⟨d, hd, rfl⟩ := hday
    exact ⟨wholeDay d, mem_distinct.2 ⟨hd, fun _ _ => nofun⟩, rfl⟩
  · exact ⟨v, mem_distinct.2 ⟨h, fun d hd heq => hday ⟨d, hd, heq⟩⟩, rfl⟩

def placed (v : Moment) : PlacedDate :=
  ⟨v.second, v.isWholeDay⟩

end Moment

namespace Series

variable {f : Frame} {vs : List Moment}

def ofMoments (f : Frame) (vs : List Moment) : Series :=
  (ofFrame f).add (.dates (vs.map Moment.placed))

theorem mem_wholeDays_ofMoments {n : Int} :
    n ∈ (ofMoments f vs).wholeDays ↔
      ∃ d, Moment.wholeDay d ∈ vs ∧ n = (DateTime.midnight d).toSeconds := by
  rw [ofMoments, mem_wholeDays_add]
  constructor
  · rintro ⟨ps, hps, hn⟩
    obtain rfl := Contribution.dates.inj hps
    obtain ⟨v, hv, hplaced⟩ := List.mem_map.1 hn
    obtain ⟨rfl, hday⟩ := PlacedDate.mk.inj hplaced
    cases v with
    | wholeDay d => exact ⟨d, hv, rfl⟩
    | timed t => exact absurd hday Bool.false_ne_true
  · rintro ⟨d, hd, rfl⟩
    exact ⟨_, rfl, List.mem_map.2 ⟨.wholeDay d, hd, rfl⟩⟩

theorem mem_seconds_ofMoments {n : Int} :
    n ∈ (ofMoments f vs).seconds ↔ ∃ v ∈ vs, v.second = n := by
  have hrules : (ofMoments f vs).set.rules = [] := rfl
  have hremoved : (ofMoments f vs).set.removed = [] := rfl
  have hdates : (ofMoments f vs).set.dates = vs.map Moment.second := by
    show [] ++ (vs.map Moment.placed).map PlacedDate.second = _
    rw [List.nil_append, List.map_map]
    rfl
  rw [seconds, stream, RecurrenceSet.mem_rising_toList_iff fun r hr => absurd hr List.not_mem_nil, hrules, hremoved,
    hdates]
  simp

theorem shown_ofMoments (h : f.wholeDay = false) {v : Moment} (hv : v ∈ vs)
    (hstarts : ∀ d, Moment.wholeDay d ∈ vs → v ≠ .timed (DateTime.midnight d)) :
    (ofMoments f vs).shown v.second = v := by
  have htimed : (ofMoments f vs).wholeDay = false := h
  rw [Series.shown, htimed, Bool.false_or]
  cases v with
  | wholeDay d =>
    have hday : (ofMoments f vs).wholeDays.contains (Moment.wholeDay d).second = true := by
      rw [List.contains_iff_mem, mem_wholeDays_ofMoments]
      exact ⟨d, hv, rfl⟩
    rw [hday, Moment.ofSecond_eq_wholeDay_iff]
    exact ⟨rfl, congrArg DateTime.date (DateTime.ofSeconds_toSeconds _)⟩
  | timed t =>
    have hday : (ofMoments f vs).wholeDays.contains (Moment.timed t).second = false := by
      rw [← Bool.not_eq_true, List.contains_iff_mem, mem_wholeDays_ofMoments]
      rintro ⟨d, hd, hsecond⟩
      exact hstarts d hd (congrArg Moment.timed (DateTime.toSeconds_inj hsecond))
    rw [hday, Moment.ofSecond_eq_timed_iff]
    exact ⟨rfl, DateTime.ofSeconds_toSeconds t⟩

theorem values_ofMoments (h : f.wholeDay = false) :
    (ofMoments f vs).values = Moment.distinct (Moment.sorted vs) := by
  let expected := Moment.distinct (Moment.sorted vs)
  have hshown : (expected.map Moment.second).map (ofMoments f vs).shown = expected := by
    rw [List.map_map]
    refine (List.map_congr_left fun v hv => ?_).trans (List.map_id _)
    obtain ⟨hmem, hstarts⟩ := Moment.mem_distinct.1 hv
    exact shown_ofMoments h (Moment.mem_sorted.1 hmem) fun d hd =>
      hstarts d (Moment.mem_sorted.2 hd)
  have hseconds : (ofMoments f vs).seconds = expected.map Moment.second := by
    -- both lists rise, so that their members settle them
    refine List.Pairwise.eq_of_mem_iff (Cursor.pairwise_rising _ _)
      (List.pairwise_map.2 (Moment.pairwise_distinct (Moment.pairwise_sorted vs))) fun n => ?_
    rw [mem_seconds_ofMoments, List.mem_map]
    constructor
    · rintro ⟨v, hv, rfl⟩
      exact Moment.exists_mem_distinct (Moment.mem_sorted.2 hv)
    · rintro ⟨v, hv, rfl⟩
      exact ⟨v, Moment.mem_sorted.1 (Moment.mem_distinct.1 hv).1, rfl⟩
  rw [values_eq_map_shown, hseconds, hshown]

open ContentLine (rdateText isUnfolded_rdateText)

theorem read_rdateText (hyears : ∀ v ∈ vs, v.date.HasPlainYear) (hvs : vs ≠ []) (number : Nat) :
    LogicalLine.read f ⟨number, (rdateText vs).toList⟩ = .ok (.dates (vs.map Moment.placed)) := by
  have hlist := ContentLine.dateList_rdateLine hyears hvs number
  have hplaced : ((vs.map Moment.listed).map fun d => (Contribution.place f {} d).1) =
      (vs.map Moment.placed).map .ok := by
    rw [List.map_map, List.map_map]
    refine List.map_congr_left fun v _ => ?_
    cases v <;> rfl
  refine LogicalLine.read_eq_dates_iff.2 ⟨_, ?_, ContentLine.property?_rdateLine vs,
    Contribution.ofDates_eq_ok_iff.2 ⟨_, hlist, hplaced⟩⟩
  rw [LogicalLine.text, String.ofList_toList]
  exact ContentLine.parse_rdateText vs number

theorem compile_rdateText (hyears : ∀ v ∈ vs, v.date.HasPlainYear) (hvs : vs ≠ [])
    {start : Moment} {governing : Zone} (hframe : Frame.ofStart start governing = .ok f)
    (strict : Bool) :
    compile (rdateText vs) start governing strict = .ok ⟨ofMoments f vs, []⟩ := by
  let l : LogicalLine := ⟨1, (rdateText vs).toList⟩
  have hadds : l.contribution? f = some (.dates (vs.map Moment.placed)) :=
    LogicalLine.contribution?_eq_some_iff.2 (read_rdateText hyears hvs 1)
  have htext : "\n".intercalate ([l].map LogicalLine.text) = rdateText vs := by
    rw [List.map_singleton, String.intercalate_singleton, LogicalLine.text, String.ofList_toList]
  have hseries : (contributions f [l]).foldl add (ofFrame f) = ofMoments f vs := by
    rw [contributions, List.filterMap_cons_some hadds]
    rfl
  rw [← htext, ← hseries]
  exact compile_joined hframe (List.forall_mem_singleton.2 (isUnfolded_rdateText hyears))
    (List.forall_mem_singleton.2 (Option.isSome_iff_exists.2 ⟨_, hadds⟩)) strict

/-- The texts of values make a line that every timed series reads, and its cursor hands out what a
fixed cursor over the values does, without the repeats and without the seconds at which days that
are listed as well start. -/
theorem next_written (hvs : vs ≠ []) (hyears : ∀ v ∈ vs, v.date.HasPlainYear) {wall : DateTime}
    {governing : Zone} {instant : Instant} (hplace : governing.place wall = .ok instant) :
    ∃ c, compile ("RDATE:" ++ ",".intercalate (vs.map toString)) (.timed wall) governing true =
        .ok c ∧
      ∃ yields : List Moment, (∀ k, (FixedCursor.ofList vs).nth? k = yields[k]?) ∧
        ∀ k, (c.series.cursor.after k).next.1 = (Moment.distinct yields)[k]? := by
  let f : Frame := ⟨instant.second, false, governing⟩
  have hframe : Frame.ofStart (.timed wall) governing = .ok f := by
    rw [Frame.ofStart, hplace]
    rfl
  refine ⟨_, compile_rdateText hyears hvs hframe true, Moment.sorted vs,
    fun k => FixedCursor.nth?_eq _ k, fun k => ?_⟩
  rw [fst_next_cursor, values_ofMoments rfl]

/-- A day and its midnight, a repeat, and values before the start. -/
theorem next_written_mixed :
    let timed (n : Int) := Moment.ofSecond n false
    let day := Moment.ofSecond 1704153600 true
    let data := "RDATE:20240102T090000Z,20240102T000000Z,20240102,20240101T000000Z,20240102T090000Z"
    ∃ c, compile data (timed 1704168000) Zone.utc true = .ok c ∧
      (c.series.cursor.after 0).next.1 = some (timed 1704067200) ∧
      (c.series.cursor.after 1).next.1 = some day ∧
      (c.series.cursor.after 2).next.1 = some (timed 1704186000) ∧
      (c.series.cursor.after 3).next.1 = none := by
  intro timed day data
  let vs := [timed 1704186000, timed 1704153600, day, timed 1704067200, timed 1704186000]
  let inOrder := [timed 1704067200, day, timed 1704153600, timed 1704186000, timed 1704186000]
  have hplace : Zone.utc.place (DateTime.ofSeconds 1704168000) =
      .ok (Instant.ofSecond 1704168000) := by decide +kernel
  have hyears : ∀ v ∈ vs, v.date.HasPlainYear := by decide +kernel
  obtain ⟨c, hcompile, yields, hyields, hnext⟩ := next_written (by decide) hyears hplace
  have hdata : "RDATE:" ++ ",".intercalate (vs.map toString) = data := by decide +kernel
  -- sorting does not evaluate, but an ordered list of the same values can be only one
  have hordered : Moment.sorted vs = inOrder :=
    Moment.sorted_eq_of_perm (by decide +kernel) (by decide +kernel)
  obtain rfl : yields = inOrder := by
    rw [← hordered]
    exact List.ext_getElem? fun k => (hyields k).symm.trans (FixedCursor.nth?_eq _ k)
  have hdistinct : Moment.distinct inOrder = [timed 1704067200, day, timed 1704186000] := by
    decide +kernel
  rw [hdata] at hcompile
  rw [hdistinct] at hnext
  exact ⟨c, hcompile, hnext 0, hnext 1, hnext 2, hnext 3⟩

end Series

end Almanac
