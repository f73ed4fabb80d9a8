import Almanac.Proofs.Line.DateList
import Almanac.Proofs.Series.Lines
import Almanac.Proofs.Series.Parts

/-! Days listed without a time. The items of a date list are placed one by one, a day at its
midnight, and what a compiled series shows as days in any case are the midnights of the days in the
date lists of its accepted lines: `mem_wholeDays_iff`. -/

namespace Almanac

namespace Contribution

variable {f : Frame} {resolver : Resolver} {n : Int}

theorem place_eq_wholeDay_iff {d : ListedDate} :
    (place f resolver d).1 = .ok ⟨n, true⟩ ↔
      ∃ day, d = .day day ∧ n = (DateTime.midnight day).toSeconds := by
  have hclock (zone : Zone) (t : ClockTime) :
      ((zone.place t).map fun i => (⟨i.second, false⟩ : PlacedDate)) ≠ .ok ⟨n, true⟩ := by
    simp [map_eq_ok_iff]
  cases d with
  | day day => simp [place, eq_comm]
  | utc t => simp [place]
  | clock t zoneId =>
    simp only [reduceCtorEq, false_and, exists_false, iff_false]
    unfold place
    split
    · next heq => simp at heq
    · next heq => simp at heq
    · exact hclock _ _
    · split
      · simp
      · exact hclock _ _

theorem placeAll_eq_ok_iff (h : resolver.Faithful) {ds : List ListedDate} {ps : List PlacedDate} :
    (placeAll f resolver ds).1 = .ok ps ↔
      (ds.map fun d => (place f {} d).1) = ps.map .ok := by
  induction ds generalizing resolver ps with
  | nil => simp [placeAll, eq_comm]
  | cons d ds ih =>
    -- a faithful resolver places an item as an empty one does and stays faithful
    obtain ⟨hsame, hafter⟩ := place_faithful f h Resolver.faithful_empty d
    rw [List.map_cons, ← hsame, placeAll]
    rcases hp : place f resolver d with ⟨placed, after⟩
    rw [hp] at hafter
    cases placed with
    | error e => cases ps <;> simp
    | ok p =>
      cases ps with
      | nil => simp [map_eq_ok_iff]
      | cons q qs => simp [map_eq_ok_iff, ih hafter, and_comm]

theorem ofDates_eq_ok_iff {line : ContentLine} {number : Nat} {ps : List PlacedDate} :
    (ofDates f {} line number).1 = .ok ps ↔
      ∃ listed, line.dateList number = .ok listed ∧
        (listed.map fun d => (place f {} d).1) = ps.map .ok := by
  unfold ofDates
  cases line.dateList number with
  | error e => simp
  | ok listed =>
    simp only [Except.ok.injEq, exists_eq_left',
      ← placeAll_eq_ok_iff (f := f) Resolver.faithful_empty]
    rcases placeAll f {} listed with ⟨placed, after⟩
    cases placed with
    | error e => simp
    | ok placed => simp

end Contribution

namespace LogicalLine

/-- The line is a list of dates to be added and lists the day without a time. -/
def AddsDay (l : LogicalLine) (d : Date) : Prop :=
  ∃ line, ContentLine.parse l.text l.number = .ok line ∧ line.property? = some .rdate ∧
    line.ListsDay d

variable {f : Frame} {l : LogicalLine}

theorem read_eq_dates_iff {ps : List PlacedDate} :
    l.read f = .ok (.dates ps) ↔
      ∃ line, ContentLine.parse l.text l.number = .ok line ∧ line.property? = some .rdate ∧
        (Contribution.ofDates f {} line l.number).1 = .ok ps := by
  unfold read Contribution.ofLine
  cases ContentLine.parse l.text l.number with
  | error e => simp
  | ok line =>
    simp only [Except.ok.injEq, exists_eq_left']
    rcases line.property? with - | property
    · simp
    · cases property with
      | dtstart => simp
      | rrule => simp [map_eq_ok_iff]
      | exrule => simp [map_eq_ok_iff]
      | rdate => simp [map_eq_ok_iff]
      | exdate => simp [map_eq_ok_iff]

theorem wholeDay_mem_iff {ps : List PlacedDate} (h : l.read f = .ok (.dates ps)) {n : Int} :
    ⟨n, true⟩ ∈ ps ↔ ∃ d, l.AddsDay d ∧ n = (DateTime.midnight d).toSeconds := by
  obtain ⟨line, hparse, hproperty, hdates⟩ := read_eq_dates_iff.1 h
  obtain ⟨listed, hlist, hplaced⟩ := Contribution.ofDates_eq_ok_iff.1 hdates
  have hadds (d : Date) : l.AddsDay d ↔ .day d ∈ listed := by
    rw [ContentLine.day_mem_iff hlist]
    constructor
    · rintro ⟨line', hparse', -, hlists⟩
      rw [hparse] at hparse'
      exact Except.ok.inj hparse' ▸ hlists
    · intro hlists
      exact ⟨line, hparse, hproperty, hlists⟩
  have hmem : ⟨n, true⟩ ∈ ps ↔
      ∃ item ∈ listed, (Contribution.place f {} item).1 = .ok ⟨n, true⟩ := by
    rw [← List.mem_map, hplaced]
    simp
  rw [hmem]
  simp only [Contribution.place_eq_wholeDay_iff, hadds]
  constructor
  · rintro ⟨item, hitem, d, rfl, hn⟩
    exact ⟨d, hitem, hn⟩
  · rintro ⟨d, hitem, hn⟩
    exact ⟨.day d, hitem, d, rfl, hn⟩

theorem exists_read_of_addsDay {d : Date} (h : l.AddsDay d)
    (haccepted : (l.contribution? f).isSome = true) : ∃ ps, l.read f = .ok (.dates ps) := by
  obtain ⟨line, hparse, hproperty, -⟩ := h
  obtain ⟨contribution, hadds⟩ := Option.isSome_iff_exists.1 haccepted
  have hread : (Contribution.ofLine f {} l.text l.number).1 = .ok contribution :=
    contribution?_eq_some_iff.1 hadds
  simp only [Contribution.ofLine, hparse, hproperty] at hread
  obtain ⟨ps, hdates, -⟩ := map_eq_ok_iff.1 hread
  exact ⟨ps, read_eq_dates_iff.2 ⟨line, hparse, hproperty, hdates⟩⟩

end LogicalLine

namespace Series

variable {data : String} {start : Moment} {governing : Zone} {strict : Bool} {f : Frame}
  {c : Compiled} {n : Int}

theorem mem_wholeDays_add {a : Contribution} :
    n ∈ ((ofFrame f).add a).wholeDays ↔ ∃ ps, a = .dates ps ∧ ⟨n, true⟩ ∈ ps := by
  cases a with
  | dates ps =>
    have hmarks : n ∈ (ps.filter PlacedDate.wholeDay).map PlacedDate.second ↔ ⟨n, true⟩ ∈ ps := by
      rw [List.mem_map]
      constructor
      · rintro ⟨⟨second, wholeDay⟩, hp, rfl⟩
        obtain ⟨hmem, hday⟩ := List.mem_filter.1 hp
        obtain rfl : wholeDay = true := hday
        exact hmem
      · intro hmem
        exact ⟨⟨n, true⟩, List.mem_filter.2 ⟨hmem, rfl⟩, rfl⟩
    simp only [add, addDates, ofFrame, List.nil_append, hmarks, Contribution.dates.injEq,
      exists_eq_left']
  | rule r => simp [add, ofFrame]
  | exclusionRule r => simp [add, ofFrame]
  | exclusionDates ps => simp [add, ofFrame]
  | nothing => simp [add, ofFrame]

theorem mem_wholeDays_iff (hframe : Frame.ofStart start governing = .ok f)
    (h : compile data start governing strict = .ok c) :
    n ∈ c.series.wholeDays ↔
      ∃ l ∈ LogicalLine.split data, (l.contribution? f).isSome = true ∧
        ∃ d, l.AddsDay d ∧ n = (DateTime.midnight d).toSeconds := by
  rw [series_of_compile hframe h, (isJoined_parts f).2.2.2.2.mem_foldl_iff]
  simp only [mem_wholeDays_add]
  constructor
  · rintro ⟨a, hmem, -, ps, rfl, hn⟩
    obtain ⟨l, hl, hadds⟩ := List.mem_filterMap.1 hmem
    have hread := LogicalLine.contribution?_eq_some_iff.1 hadds
    exact ⟨l, hl, Option.isSome_iff_exists.2 ⟨_, hadds⟩, (LogicalLine.wholeDay_mem_iff hread).1 hn⟩
  · rintro ⟨l, hl, haccepted, d, hday, hn⟩
    obtain ⟨ps, hread⟩ := LogicalLine.exists_read_of_addsDay hday haccepted
    have hadds := LogicalLine.contribution?_eq_some_iff.2 hread
    exact ⟨.dates ps, List.mem_filterMap.2 ⟨l, hl, hadds⟩, nofun, ps, rfl,
      (LogicalLine.wholeDay_mem_iff hread).2 ⟨d, hday, hn⟩⟩

theorem midnight_of_compile (h : compile data start governing strict = .ok c) :
    ∀ n ∈ c.series.wholeDays, n % 86400 = 0 := by
  obtain ⟨f, hframe⟩ := exists_frame_of_compile h
  intro n hn
  obtain ⟨-, -, -, d, -, rfl⟩ := (mem_wholeDays_iff hframe h).1 hn
  rw [DateTime.toSeconds_midnight]
  omega

end Series

end Almanac
