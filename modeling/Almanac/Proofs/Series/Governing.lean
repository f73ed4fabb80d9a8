import Almanac.Proofs.Cursor.Session
import Almanac.Proofs.Line.Numbers
import Almanac.Proofs.RecurrenceSet.Ending
import Almanac.Series.Basic

/-! The governing zone in a series of whole days. Such a series is followed in UTC and its rules end
in UTC, so that the governing zone is left with the wall clocks in date lists that name no zone;
without them it does not show: `compile_eq_of_wholeDay`. -/

namespace Almanac

/-- A wall clock that names no zone. -/
def ListedDate.isFloating : ListedDate → Bool
  | clock _ none => true
  | _ => false

/-- The line is a date list, of either kind, that holds a wall clock without a zone. -/
def LogicalLine.listsFloating (l : LogicalLine) : Bool :=
  (ContentLine.parse l.text l.number).toOption.any fun line =>
    (line.property? == some .rdate || line.property? == some .exdate) &&
      (line.dateList l.number).toOption.any fun listed => listed.any ListedDate.isFloating

theorem LogicalLine.isFloating_of_mem {l : LogicalLine} {line : ContentLine}
    {listed : List ListedDate} (hl : l.listsFloating = false)
    (hparse : ContentLine.parse l.text l.number = .ok line)
    (hproperty : line.property? = some .rdate ∨ line.property? = some .exdate)
    (hlist : line.dateList l.number = .ok listed) : ∀ d ∈ listed, d.isFloating = false := by
  rw [listsFloating, hparse] at hl
  have hnone : listed.any ListedDate.isFloating = false := by
    rcases hproperty with hproperty | hproperty
    · simpa [Except.toOption, hproperty, hlist] using hl
    · simpa [Except.toOption, hproperty, hlist] using hl
  simpa using hnone

namespace Contribution

variable {f : Frame} (governing : Zone)

theorem zone_governing (h : f.wholeDay = true) : Frame.zone { f with governing } = f.zone := by
  rw [Frame.zone, Frame.zone, if_pos h, if_pos h]

theorem endSecond_governing (h : f.wholeDay = true) (e : RuleEnd) :
    endSecond { f with governing } e = endSecond f e := by
  cases e with
  | utc t => rfl
  | floating t => rw [endSecond, endSecond, if_pos h, if_pos h]

theorem readRule_governing (h : f.wholeDay = true) (text : String) :
    readRule { f with governing } text = readRule f text := by
  unfold readRule
  simp only [zone_governing governing h, endSecond_governing governing h]

theorem ofRule_governing (h : f.wholeDay = true) (line : ContentLine) (number : Nat) :
    ofRule { f with governing } line number = ofRule f line number := by
  rw [ofRule, ofRule, readRule_governing governing h]

theorem place_governing (resolver : Resolver) {d : ListedDate} (h : d.isFloating = false) :
    place { f with governing } resolver d = place f resolver d := by
  cases d with
  | day d => rfl
  | utc t => rfl
  | clock t zoneId =>
    cases zoneId with
    | none => exact absurd h (by simp [ListedDate.isFloating])
    | some identifier => rfl

theorem placeAll_governing (resolver : Resolver) {ds : List ListedDate}
    (h : ∀ d ∈ ds, d.isFloating = false) :
    placeAll { f with governing } resolver ds = placeAll f resolver ds := by
  induction ds generalizing resolver with
  | nil => rfl
  | cons d ds ih =>
    obtain ⟨hd, hds⟩ := List.forall_mem_cons.1 h
    simp only [placeAll, place_governing governing resolver hd, ih _ hds]

theorem ofDates_governing (resolver : Resolver) {line : ContentLine} {number : Nat}
    (h : ∀ listed, line.dateList number = .ok listed → ∀ d ∈ listed, d.isFloating = false) :
    ofDates { f with governing } resolver line number = ofDates f resolver line number := by
  unfold ofDates
  cases hlist : line.dateList number with
  | error e => rfl
  | ok listed => simp only [placeAll_governing governing resolver (h listed hlist)]

theorem ofLine_governing (h : f.wholeDay = true) (resolver : Resolver) {l : LogicalLine}
    (hl : l.listsFloating = false) :
    ofLine { f with governing } resolver l.text l.number = ofLine f resolver l.text l.number := by
  unfold ofLine
  cases hparse : ContentLine.parse l.text l.number with
  | error e => rfl
  | ok line =>
    have hdates (hproperty : line.property? = some .rdate ∨ line.property? = some .exdate) :
        ofDates { f with governing } resolver line l.number =
          ofDates f resolver line l.number :=
      ofDates_governing governing resolver fun _ hlist =>
        LogicalLine.isFloating_of_mem hl hparse hproperty hlist
    dsimp only
    split
    · rfl
    · rfl
    · rw [ofRule_governing governing h]
    · rw [ofRule_governing governing h]
    · next hproperty => rw [hdates (Or.inl hproperty)]
    · next hproperty => rw [hdates (Or.inr hproperty)]

end Contribution

namespace Series

variable {f : Frame} {data : String} {strict : Bool}

theorem addLines_governing (h : f.wholeDay = true) (governing : Zone) (resolver : Resolver)
    (compiled : Compiled) {lines : List LogicalLine}
    (hlines : ∀ l ∈ lines, l.listsFloating = false) :
    addLines { f with governing } strict resolver compiled lines =
      addLines f strict resolver compiled lines := by
  -- what a line leaves in the resolver is the same as well, and so the next line starts alike
  induction lines generalizing resolver compiled with
  | nil => rfl
  | cons l lines ih =>
    obtain ⟨hl, hrest⟩ := List.forall_mem_cons.1 hlines
    simp only [addLines, Contribution.ofLine_governing governing h resolver hl, ih _ _ hrest]

/-- Reading data into a series of whole days comes to the same under any two governing zones: the
same series with the same lines passed over, or the same error; and so do all sessions of cursors
over it. -/
theorem compile_eq_of_wholeDay (h : ∀ l ∈ LogicalLine.split data, l.listsFloating = false)
    (day : Date) (governing governing' : Zone) (strict : Bool) :
    compile data (.wholeDay day) governing strict = compile data (.wholeDay day) governing' strict ∧
      ∀ c c', compile data (.wholeDay day) governing strict = .ok c →
        compile data (.wholeDay day) governing' strict = .ok c' →
        c.skipped = c'.skipped ∧
          ∀ requests, answers c.series.cursor [] requests = answers c'.series.cursor [] requests := by
  -- a day is placed without the zone, so that the two frames differ in the zone alone
  let f : Frame := ⟨(Moment.wholeDay day).second, true, governing'⟩
  have hsame : compile data (.wholeDay day) governing strict =
      compile data (.wholeDay day) governing' strict :=
    addLines_governing (f := f) rfl governing {} ⟨ofFrame f, []⟩ h
  refine ⟨hsame, ?_⟩
  intro c c' hc hc'
  rw [hsame, hc'] at hc
  obtain rfl : c' = c := Except.ok.inj hc
  exact ⟨rfl, fun requests => rfl⟩

/-- Rules that end at a day and at a wall clock, a time that names its zone and a list that is
refused, under clocks half a day and more apart. -/
theorem compile_eq_of_wholeDay_endings :
    let data := "\n".intercalate
      ["RRULE:FREQ=DAILY;UNTIL=20240104", "EXRULE:FREQ=DAILY;INTERVAL=2;UNTIL=20240103T000000",
        "RDATE;TZID=Africa/Sao_Tome:20240105T120000", "RDATE:5"]
    let day (n : Int) := (DateTime.ofSeconds n).date
    let east : Zone := ⟨"Etc/GMT-14", .steady ⟨50400, by decide⟩⟩
    ∃ c, compile data (.wholeDay (day 1704067200)) Zone.utc false = .ok c ∧
      compile data (.wholeDay (day 1704067200)) east false = .ok c ∧
      c.skipped.map LineError.line = [4] ∧
      (c.series.cursor.after 0).next.1 = some (.wholeDay (day 1704153600)) := by
  intro data day east
  let shown (c : Compiled) := (c.skipped.map LineError.line, (c.series.cursor.after 0).next.1)
  obtain ⟨c, hcompile, hshown⟩ : ∃ c,
      compile data (.wholeDay (day 1704067200)) Zone.utc false = .ok c ∧
        shown c = ([4], some (.wholeDay (day 1704153600))) :=
    exists_ok_of_map_toOption (by decide +kernel)
  have hnames : ∀ l ∈ LogicalLine.split data, l.listsFloating = false := by decide +kernel
  obtain ⟨hsame, -⟩ := compile_eq_of_wholeDay hnames (day 1704067200) Zone.utc east false
  obtain ⟨hskipped, hnext⟩ := Prod.mk.inj hshown
  exact ⟨c, hcompile, hsame ▸ hcompile, hskipped, hnext⟩

end Series

end Almanac
