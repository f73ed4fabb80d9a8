import Almanac.Proofs.RecurrenceSet.Rising
import Almanac.Proofs.Series.Cursors
import Almanac.Proofs.Series.Order
import Almanac.Proofs.Series.Parts
import Almanac.Proofs.Series.Strictness
import Almanac.Proofs.Zone.Placement

/-! Data that holds the same lines. What a series hands out depends on which parts it has, not on
their order nor on how often each was added, as long as its exclusion rules give their instants in
order: `SameParts.values_eq`. Lines that are refused, and those that only repeat the start, are no
part of it: `next_eq_of_same_lines`. -/

namespace Almanac

open Supply (toList)

namespace Series

variable {f : Frame}

structure SameParts (s t : Series) : Prop where
  start : s.set.start = t.set.start
  zone : s.set.zone = t.set.zone
  wholeDay : s.wholeDay = t.wholeDay
  rules : ∀ r, r ∈ s.set.rules ↔ r ∈ t.set.rules
  exclusionRules : ∀ r, r ∈ s.set.exclusionRules ↔ r ∈ t.set.exclusionRules
  dates : ∀ n, n ∈ s.set.dates ↔ n ∈ t.set.dates
  exclusionDates : ∀ n, n ∈ s.set.exclusionDates ↔ n ∈ t.set.exclusionDates
  wholeDays : ∀ n, n ∈ s.wholeDays ↔ n ∈ t.wholeDays

namespace SameParts

variable {s t : Series}

theorem expand_eq (h : SameParts s t) (r : Rule) : s.set.expand r = t.set.expand r := by
  rw [RecurrenceSet.expand, RecurrenceSet.expand, h.zone, h.start]

theorem mem_removed (h : SameParts s t) (n : Int) : n ∈ s.set.removed ↔ n ∈ t.set.removed := by
  simp only [RecurrenceSet.removed, List.mem_append, List.mem_flatMap, h.exclusionRules,
    h.exclusionDates, h.expand_eq]

theorem kept_eq (h : SameParts s t) (ns : List Int) :
    kept s.set.removed ns = kept t.set.removed ns := by
  apply List.filter_congr
  intro n _
  simp only [h.mem_removed n]

theorem shown_eq (h : SameParts s t) : s.shown = t.shown := by
  funext n
  have hdays : s.wholeDays.contains n = t.wholeDays.contains n := by
    rw [Bool.eq_iff_iff, List.contains_iff_mem, List.contains_iff_mem]
    exact h.wholeDays n
  rw [shown, shown, h.wholeDay, hdays]

theorem seconds_eq (h : SameParts s t)
    (hs : ∀ r ∈ s.set.exclusionRules, (s.set.expand r).Pairwise (· ≤ ·)) :
    s.seconds = t.seconds := by
  have ht : ∀ r ∈ t.set.exclusionRules, (t.set.expand r).Pairwise (· ≤ ·) := by
    intro r hr
    rw [← h.expand_eq]
    exact hs r ((h.exclusionRules r).2 hr)
  -- both lists rise, so that their members settle them
  apply List.Pairwise.eq_of_mem_iff (Cursor.pairwise_rising _ _) (Cursor.pairwise_rising _ _)
  intro n
  show n ∈ Cursor.rising none (toList (SetRun.ofSet s.set)) ↔
    n ∈ Cursor.rising none (toList (SetRun.ofSet t.set))
  rw [RecurrenceSet.mem_rising_toList_iff hs, RecurrenceSet.mem_rising_toList_iff ht]
  simp only [h.rules, h.dates, h.mem_removed, h.expand_eq, h.kept_eq]

theorem values_eq (h : SameParts s t)
    (hs : ∀ r ∈ s.set.exclusionRules, (s.set.expand r).Pairwise (· ≤ ·)) : s.values = t.values := by
  rw [values_eq_map_shown, values_eq_map_shown, h.seconds_eq hs, h.shown_eq]

end SameParts

theorem sameParts_foldl {cs ds : List Contribution}
    (h : ∀ c, c ≠ .nothing → (c ∈ cs ↔ c ∈ ds)) :
    SameParts (cs.foldl add (ofFrame f)) (ds.foldl add (ofFrame f)) := by
  obtain ⟨hrules, hexclusionRules, hdates, hexclusionDates, hwholeDays⟩ := isJoined_parts f
  have hcs := (startsIn_ofFrame f).foldl cs
  have hds := (startsIn_ofFrame f).foldl ds
  exact {
    start := hcs.2.trans hds.2.symm
    zone := hcs.1.trans hds.1.symm
    wholeDay := (wholeDay_foldl cs _).trans (wholeDay_foldl ds _).symm
    rules := hrules.mem_congr h
    exclusionRules := hexclusionRules.mem_congr h
    dates := hdates.mem_congr h
    exclusionDates := hexclusionDates.mem_congr h
    wholeDays := hwholeDays.mem_congr h }

end Series

/-- The line only repeats where the series starts. -/
def LogicalLine.isStart (l : LogicalLine) : Bool :=
  (ContentLine.parse l.text l.number).toOption.any fun line => line.property? == some .dtstart

theorem LogicalLine.contribution?_of_isStart {f : Frame} {l : LogicalLine} {c : Contribution}
    (hstart : l.isStart = true) (h : l.contribution? f = some c) : c = .nothing := by
  rw [contribution?_eq_some_iff, read, Contribution.ofLine] at h
  rw [isStart] at hstart
  cases hparse : ContentLine.parse l.text l.number with
  | error e => simp [hparse, Except.toOption] at hstart
  | ok line =>
    have hproperty : line.property? = some .dtstart := by
      simpa [hparse, Except.toOption] using hstart
    simp only [hparse, hproperty] at h
    exact (Except.ok.inj h).symm

namespace Series

variable {f : Frame} {data data' : String} {start : Moment} {governing : Zone} {c c' : Compiled}

/-- The texts of the lines that were accepted, without those that only repeat the start. -/
def acceptedTexts (data : String) (c : Compiled) : Finset String :=
  (((linesWithout data c.skipped).filter fun l => !l.isStart).map LogicalLine.text).toFinset

theorem contribution?_eq_of_text {l m : LogicalLine} (h : l.text = m.text) :
    l.contribution? f = m.contribution? f :=
  LogicalLine.contribution?_congr (String.ofList_injective h)

theorem mem_contributions_of_accepted (hframe : Frame.ofStart start governing = .ok f)
    (h : compile data start governing false = .ok c)
    (h' : compile data' start governing false = .ok c')
    (hsub : acceptedTexts data c ⊆ acceptedTexts data' c') {a : Contribution} (ha : a ≠ .nothing)
    (hmem : a ∈ contributions f (LogicalLine.split data)) :
    a ∈ contributions f (LogicalLine.split data') := by
  obtain ⟨l, hl, hadds⟩ := List.mem_filterMap.1 hmem
  have hkept : l ∈ linesWithout data c.skipped := by
    rw [mem_linesWithout_iff hframe h, hadds]
    exact ⟨hl, rfl⟩
  have hnot : l.isStart = false := by
    by_contra hstart
    exact ha (LogicalLine.contribution?_of_isStart (by simpa using hstart) hadds)
  have htext : l.text ∈ acceptedTexts data c := by
    apply List.mem_toFinset.2
    exact List.mem_map_of_mem (List.mem_filter.2 ⟨hkept, by rw [hnot]; rfl⟩)
  obtain ⟨m, hm, hsame⟩ := List.mem_map.1 (List.mem_toFinset.1 (hsub htext))
  have hm' := ((mem_linesWithout_iff hframe h').1 (List.mem_filter.1 hm).1).1
  exact List.mem_filterMap.2 ⟨m, hm', (contribution?_eq_of_text hsame).trans hadds⟩

/-- A line is accepted or not on its own, and cursors give the same values for data with the same
accepted lines, provided that each exclusion rule gives its instants in order. -/
theorem next_eq_of_same_lines (h : compile data start governing false = .ok c)
    (h' : compile data' start governing false = .ok c') :
    (∀ l ∈ LogicalLine.split data, ∀ m ∈ LogicalLine.split data', l.text = m.text →
      (l ∈ linesWithout data c.skipped ↔ m ∈ linesWithout data' c'.skipped)) ∧
    (acceptedTexts data c = acceptedTexts data' c' →
      (∀ r ∈ c.series.set.exclusionRules, (c.series.set.expand r).Pairwise (· ≤ ·)) →
      ∀ k, (c.series.cursor.after k).next.1 = (c'.series.cursor.after k).next.1) := by
  obtain ⟨f, hframe⟩ := exists_frame_of_compile h
  refine ⟨?alone, ?together⟩
  case alone =>
    intro l hl m hm htext
    rw [mem_linesWithout_iff hframe h, mem_linesWithout_iff hframe h',
      contribution?_eq_of_text htext]
    exact ⟨fun hsome => ⟨hm, hsome.2⟩, fun hsome => ⟨hl, hsome.2⟩⟩
  case together =>
    intro hsame hexclusion k
    have hparts : SameParts c.series c'.series := by
      rw [series_of_compile hframe h, series_of_compile hframe h']
      apply sameParts_foldl
      intro a ha
      constructor
      · exact mem_contributions_of_accepted hframe h h' (Finset.subset_of_eq hsame) ha
      · exact mem_contributions_of_accepted hframe h' h (Finset.subset_of_eq hsame.symm) ha
    rw [fst_next_cursor, fst_next_cursor, hparts.values_eq hexclusion]

/-- Another order, a folded line, a repeated one, a start and a line that is refused. -/
theorem next_eq_of_same_lines_rearranged :
    let data := "EXRULE:FREQ=DAILY;COUNT=1\nRDATE:20240105"
    let data' := "\n".intercalate
      ["RDATE", " :20240105", "", "RDATE:5", "DTSTART:5", "EXRULE:FREQ=DAILY;COUNT=1",
        "RDATE:20240105"]
    let start := Moment.ofSecond 1704099600 false
    ∃ c c', compile data start Zone.utc false = .ok c ∧ c.skipped = [] ∧
      compile data' start Zone.utc false = .ok c' ∧ c'.skipped.map LineError.line = [4] ∧
      ∀ k, (c.series.cursor.after k).next.1 = (c'.series.cursor.after k).next.1 := by
  intro data data' start
  let f : Frame := ⟨1704099600, false, Zone.utc⟩
  let read (data : String) : Compiled :=
    ⟨(contributions f (LogicalLine.split data)).foldl add (ofFrame f),
      refusals f (LogicalLine.split data)⟩
  have hframe : Frame.ofStart start Zone.utc = .ok f := by decide +kernel
  have h : compile data start Zone.utc false = .ok (read data) :=
    compile_of_readable hframe (by decide +kernel)
  have h' : compile data' start Zone.utc false = .ok (read data') :=
    compile_of_readable hframe (by decide +kernel)
  have hsame : acceptedTexts data (read data) = acceptedTexts data' (read data') := by
    decide +kernel
  have hasc := ascending_of_compile hframe h (Expansion.placesInOrder_of_steady rfl)
  refine ⟨read data, read data', h, by decide +kernel, h', by decide +kernel, ?_⟩
  exact (next_eq_of_same_lines h h').2 hsame fun r hr => hasc r (Or.inr hr)

/-- At the start of 2018 the clock of the zone goes one hour on, and an exclusion rule that steps by
45 minutes goes back to 01:30 UTC. How far it has been followed by then depends on how many instants
were looked at, so that a repeated line takes 01:30 away. -/
theorem repeated_line_shows_at_gap :
    let data := "\n".intercalate
      ["RRULE:FREQ=DAILY;COUNT=1", "RDATE:20180101T013000Z",
        "EXRULE:FREQ=MINUTELY;INTERVAL=45;COUNT=4"]
    let data' := "RRULE:FREQ=DAILY;COUNT=1\n" ++ data
    let start := Moment.ofSecond 1514765700 false
    ∃ governing c c', Zone.named? "Africa/Sao_Tome" = some governing ∧
      compile data start governing false = .ok c ∧ compile data' start governing false = .ok c' ∧
      acceptedTexts data c = acceptedTexts data' c' ∧
      (c.series.cursor.after 0).next.1 = some (Moment.ofSecond 1514770200 false) ∧
      (c'.series.cursor.after 0).next.1 = none := by
  intro data data' start
  let f : Frame := ⟨1514765700, false, Zone.saoTome⟩
  let read (data : String) : Compiled :=
    ⟨(contributions f (LogicalLine.split data)).foldl add (ofFrame f),
      refusals f (LogicalLine.split data)⟩
  have hgiven : Supply.draw 2 (SetRun.ofSet (read data).series.set) = [1514770200] := by
    decide +kernel
  have hnothing : Supply.draw 2 (SetRun.ofSet (read data').series.set) = [] := by
    decide +kernel
  have hframe : Frame.ofStart start Zone.saoTome = .ok f := by decide +kernel
  refine ⟨Zone.saoTome, read data, read data', Zone.named?_saoTome,
    compile_of_readable hframe (by decide +kernel),
    compile_of_readable hframe (by decide +kernel), by decide +kernel, ?_, ?_⟩
  · rw [fst_next_of_draw hgiven (by decide)]
    decide +kernel
  · rw [fst_next_of_draw hnothing (by decide)]
    decide +kernel

end Series

end Almanac
