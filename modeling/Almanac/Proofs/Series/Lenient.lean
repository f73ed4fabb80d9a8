import Almanac.Proofs.Rule.Weekdays
import Almanac.Proofs.Series.Strictness

/-! Lenient reading of any text. A line that is refused costs only itself; what lenient reading does
not survive is a rule whose weekdays break reading off: `compile_lenient_iff`. -/

namespace Almanac

namespace Contribution

variable {f : Frame} {line : ContentLine} {number : Nat}

theorem readRule_eq_error_none_iff {text : String} :
    readRule f text = .error none ↔ RuleParts.BreaksOff text := by
  rw [← RuleParts.parse_eq_brokenOff_iff]
  unfold readRule
  rcases RuleParts.parse text with (reason | -) | parts
  · simp
  · simp
  · -- a rule that reads well can only be refused
    dsimp only
    split
    · simp
    · split <;> simp

theorem ofRule_eq_brokenOff_iff :
    ofRule f line number = .error .brokenOff ↔ RuleParts.BreaksOff line.value := by
  rw [← readRule_eq_error_none_iff (f := f)]
  unfold ofRule
  rcases readRule f line.value with (- | reason) | r
  · simp
  · simp
  · simp

theorem ofDates_ne_brokenOff (resolver : Resolver) :
    (ofDates f resolver line number).1 ≠ .error .brokenOff := by
  unfold ofDates
  split
  · simp
  · split <;> simp

end Contribution

namespace LogicalLine

/-- The line is a rule, of either kind, whose text breaks reading off. -/
def BreaksOff (l : LogicalLine) : Prop :=
  ∃ line, ContentLine.parse l.text l.number = .ok line ∧
    (line.property? = some .rrule ∨ line.property? = some .exrule) ∧ RuleParts.BreaksOff line.value

theorem read_eq_brokenOff_iff {f : Frame} {l : LogicalLine} :
    l.read f = .error .brokenOff ↔ l.BreaksOff := by
  unfold read BreaksOff Contribution.ofLine
  cases ContentLine.parse l.text l.number with
  | error e => simp
  | ok line =>
    simp only [Except.ok.injEq, exists_eq_left']
    rcases line.property? with - | property
    · simp
    · cases property with
      | dtstart => simp
      | rrule => simp [map_eq_error_iff, Contribution.ofRule_eq_brokenOff_iff]
      | exrule => simp [map_eq_error_iff, Contribution.ofRule_eq_brokenOff_iff]
      | rdate => simp [map_eq_error_iff, Contribution.ofDates_ne_brokenOff]
      | exdate => simp [map_eq_error_iff, Contribution.ofDates_ne_brokenOff]

end LogicalLine

namespace Series

variable {f : Frame} {data : String} {start : Moment} {governing : Zone}

theorem readable_iff {lines : List LogicalLine} :
    Readable f lines ↔ ∀ l ∈ lines, ¬l.BreaksOff := by
  apply forall₂_congr
  intro l _
  exact not_congr LogicalLine.read_eq_brokenOff_iff

/-- Where the empty text can be read, so can every text without a rule that breaks reading off, and
no other. The lines passed over could as well be left out. -/
theorem compile_lenient_iff {empty : Compiled}
    (h : compile "" start governing false = .ok empty) (data : String) :
    ((∃ c, compile data start governing false = .ok c) ↔
      ∀ l ∈ LogicalLine.split data, ¬l.BreaksOff) ∧
    ((∃ l ∈ LogicalLine.split data, l.BreaksOff) →
      compile data start governing false = .error .brokenOff) ∧
    ∀ c, compile data start governing false = .ok c →
      compile ("\n".intercalate ((linesWithout data c.skipped).map LogicalLine.text)) start
        governing false = .ok ⟨c.series, []⟩ := by
  obtain ⟨f, hframe⟩ := exists_frame_of_compile h
  refine ⟨?succeeds, ?fails, ?alone⟩
  case succeeds =>
    rw [← readable_iff (f := f)]
    constructor
    · rintro ⟨c, hc⟩
      exact (eq_of_compile hframe hc).1
    · intro hread
      exact ⟨_, compile_of_readable hframe hread⟩
  case fails =>
    rintro ⟨l, hl, hbreaks⟩
    rw [compile, hframe]
    apply addLines_of_not_readable Resolver.faithful_empty
    rw [readable_iff]
    exact fun hread => hread l hl hbreaks
  case alone =>
    intro c hc
    obtain ⟨hread, rfl⟩ := eq_of_compile hframe hc
    exact compile_linesWithout hframe hread false

/-- A line without a value, and a weekday that there is not after a character of two bytes. -/
theorem compile_lenient_malformed :
    let data := "no line\nRRULE:FREQ=DAILY;BYDAY=éXX\nRDATE:20240105"
    let start := Moment.ofSecond 1704067200 true
    ∃ empty c, compile "" start Zone.utc false = .ok empty ∧
      compile data start Zone.utc false = .ok c ∧ c.skipped.map LineError.line = [1, 2] ∧
      compile "RDATE:20240105" start Zone.utc false = .ok ⟨c.series, []⟩ := by
  intro data start
  let f : Frame := ⟨1704067200, true, Zone.utc⟩
  have hframe : Frame.ofStart start Zone.utc = .ok f := by decide +kernel
  have hempty : compile "" start Zone.utc false = .ok _ :=
    compile_of_readable hframe (by decide +kernel)
  obtain ⟨hsucceeds, -, halone⟩ := compile_lenient_iff hempty data
  obtain ⟨c, hc⟩ := hsucceeds.2 (readable_iff.1 (by decide +kernel : Readable f _))
  have hskipped : c.skipped.map LineError.line = [1, 2] := by
    rw [(eq_of_compile hframe hc).2]
    decide +kernel
  have htext : "\n".intercalate ((linesWithout data c.skipped).map LogicalLine.text) =
      "RDATE:20240105" := by
    rw [linesWithout, hskipped]
    decide +kernel
  refine ⟨_, c, hempty, hc, hskipped, ?_⟩
  rw [← htext]
  exact halone c hc

/-- The euro sign takes three bytes, so that the cut goes through it. -/
theorem broken_off_at_euro_sign :
    let data := "RRULE:FREQ=DAILY;BYDAY=M€\nRDATE:20240105"
    let start := Moment.ofSecond 1704067200 true
    ∃ empty, compile "" start Zone.utc false = .ok empty ∧
      compile data start Zone.utc false = .error .brokenOff := by
  intro data start
  refine ⟨⟨ofFrame ⟨1704067200, true, Zone.utc⟩, []⟩, by decide +kernel, by decide +kernel⟩

end Series

end Almanac
