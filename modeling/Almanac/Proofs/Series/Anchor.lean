import Almanac.Proofs.Cursor.ZonedTimes
import Almanac.Proofs.Expansion.Bounds
import Almanac.Proofs.RecurrenceSet.Sources
import Almanac.Proofs.Series.Occurrences
import Almanac.Proofs.Series.Repeats
import Almanac.Proofs.Zone.Placement

/-! Where a series of zoned times starts. The start is read off the governing clock and placed
again, so that a series starts with the earliest second that shows the wall clock of its start:
`start_eq_iff`. -/

namespace Almanac.ZonedSeries

variable {data : String} {start : ZonedTime} {zone : Option Zone} {strict : Bool} {s : ZonedSeries}

theorem exists_frame (start : ZonedTime) (g : Zone) :
    ∃ n, Frame.ofStart (start.moment g) g = .ok ⟨n, false, g⟩ ∧
      g.IsEarliest n start.instant.second := by
  obtain ⟨n, hplace, hearliest⟩ := g.place_clockAt start.instant.second
  refine ⟨n, ?_, hearliest⟩
  show (g.place (g.clockAt start.instant.second)).map _ = _
  rw [hplace]
  rfl

theorem isEarliest_start (h : compile data start zone strict = .ok s) :
    (zone.getD start.zone).IsEarliest s.compiled.series.set.start start.instant.second := by
  let g := zone.getD start.zone
  obtain ⟨n, hframe, hearliest⟩ := exists_frame start g
  unfold compile at h
  dsimp only at h
  cases hcompile : Series.compile data (start.moment g) g strict with
  | error e => simp [g, hcompile, Except.map] at h
  | ok compiled =>
    simp only [g, hcompile, Except.map, Except.ok.injEq] at h
    subst h
    have hstart := (Series.startsIn_ofFrame ⟨n, false, g⟩).foldl
      (Series.contributions ⟨n, false, g⟩ (LogicalLine.split data))
    rw [← Series.series_of_compile hframe hcompile] at hstart
    rw [hstart.2]
    exact hearliest

/-- A series starts at the very instant given if and only if the governing clock has not shown the
same before; otherwise it starts earlier, where the clock first showed it. Its rules give nothing
before that start, and cursors hand out nothing that neither a rule nor a date gives. -/
theorem start_eq_iff (h : compile data start zone strict = .ok s)
    (hwhole : start.instant.nanosecond = 0) :
    let governing := zone.getD start.zone
    let set := s.compiled.series.set
    (Instant.ofSecond set.start = start.instant ↔ ∀ n, n < start.instant.second →
      governing.clockAt n ≠ governing.clockAt start.instant.second) ∧
    governing.IsEarliest set.start start.instant.second ∧
    (∀ r ∈ set.rules, ∀ n ∈ set.expand r, set.start ≤ n) ∧
    ∀ t, s.compiled.series.cursor.Yields t → ∃ n, t = .ofSecond n ∧
      (n ∈ set.dates ∨ ∃ r ∈ set.rules, n ∈ set.expand r) := by
  intro governing set
  have hearliest := isEarliest_start h
  have hinstant : Instant.ofSecond set.start = start.instant ↔
      set.start = start.instant.second := by
    constructor
    · intro heq
      rw [← heq]
      rfl
    · intro heq
      exact Instant.ext heq hwhole.symm
  refine ⟨hinstant.trans hearliest.eq_iff, hearliest, ?fromStart, ?sources⟩
  case fromStart =>
    intro r _ n hn
    exact Expansion.start_le_of_mem_ofRule hn
  case sources =>
    intro t ht
    rw [Cursor.yields_iff_mem_ahead rfl, Series.ahead_cursor] at ht
    obtain ⟨n, hn, rfl⟩ := List.mem_map.1 ht
    exact ⟨n, rfl, RecurrenceSet.source_of_mem (Cursor.mem_of_mem_rising hn)⟩

/-- At the start of 2019 the clock of the zone goes one hour back. Here the series starts in the
hour before. -/
theorem start_eq_first_reading :
    ∃ saoTome s, Zone.named? "Africa/Sao_Tome" = some saoTome ∧
      compile "RRULE:FREQ=DAILY;COUNT=2" ⟨Instant.ofSecond 1546302600, saoTome⟩ none true = .ok s ∧
      saoTome.clockAt 1546306200 = saoTome.clockAt 1546302600 ∧
      Instant.ofSecond s.compiled.series.set.start = Instant.ofSecond 1546302600 := by
  let start : ZonedTime := ⟨Instant.ofSecond 1546302600, Zone.saoTome⟩
  let s := (compile "RRULE:FREQ=DAILY;COUNT=2" start none true).toOption.get (by decide +kernel)
  have hcompile : compile "RRULE:FREQ=DAILY;COUNT=2" start none true = .ok s := eq_ok_get _
  have hreadings : Zone.saoTome.readings (Zone.saoTome.clockAt 1546302600) =
      [1546302600, 1546306200] := by
    decide +kernel
  have hshown (n : Int) : Zone.saoTome.clockAt n = Zone.saoTome.clockAt 1546302600 ↔
      n = 1546302600 ∨ n = 1546306200 := by
    rw [← Zone.mem_readings, hreadings, List.mem_cons, List.mem_singleton]
  refine ⟨Zone.saoTome, s, Zone.named?_saoTome, hcompile, (hshown _).2 (Or.inr rfl), ?_⟩
  apply (start_eq_iff hcompile rfl).1.2
  intro n (hn : n < 1546302600) hshows
  rcases (hshown n).1 hshows with rfl | rfl
  · exact Int.lt_irrefl _ hn
  · exact absurd hn (by decide)

/-- An hour later the clock shows the same again, and the series starts an hour before the start
that is given. -/
theorem starts_before_second_reading :
    ∃ saoTome s, Zone.named? "Africa/Sao_Tome" = some saoTome ∧
      compile "RRULE:FREQ=DAILY;COUNT=1" ⟨Instant.ofSecond 1546306200, saoTome⟩ none true = .ok s ∧
      s.compiled.series.set.start = 1546302600 ∧
      ∃ t, s.cursor.next.1 = some t ∧ t.instant.Before (Instant.ofSecond 1546306200) := by
  let start : ZonedTime := ⟨Instant.ofSecond 1546306200, Zone.saoTome⟩
  let s := (compile "RRULE:FREQ=DAILY;COUNT=1" start none true).toOption.get (by decide +kernel)
  refine ⟨Zone.saoTome, s, Zone.named?_saoTome, eq_ok_get _, by decide +kernel,
    ⟨Instant.ofSecond 1546302600, Zone.utc⟩, by decide +kernel, by decide⟩

end Almanac.ZonedSeries
