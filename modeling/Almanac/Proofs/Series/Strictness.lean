import Almanac.Proofs.Series.Lines

/-! Strict and lenient reading of the same data. A line is taken as a whole or not at all, so that
lenient reading is strict reading of the lines that are left, and strict reading fails with the
first line that lenient reading passes over. -/

namespace Almanac.Series

variable {f : Frame} {data : String} {start : Moment} {governing : Zone}

def linesWithout (data : String) (skipped : List LineError) : List LogicalLine :=
  (LogicalLine.split data).filter fun l => decide (l.number ∉ skipped.map LineError.line)

theorem contributions_eq_of_chars (f : Frame) (lines : List LogicalLine) :
    contributions f lines =
      (lines.map LogicalLine.chars).filterMap fun cs => LogicalLine.contribution? f ⟨0, cs⟩ := by
  rw [List.filterMap_map]
  exact List.filterMap_congr fun l _ => LogicalLine.contribution?_congr rfl

theorem accepted_iff_not_refused {l : LogicalLine} (h : l.read f ≠ .error .brokenOff) :
    (l.contribution? f).isSome ↔ l.refusal? f = none := by
  unfold LogicalLine.contribution? LogicalLine.refusal?
  rcases hl : l.read f with (e | -) | contribution
  · simp [Except.toOption]
  · exact absurd hl h
  · simp [Except.toOption]

theorem readable_of_accepted {lines : List LogicalLine}
    (h : ∀ l ∈ lines, (l.contribution? f).isSome) : Readable f lines ∧ refusals f lines = [] := by
  have hok : ∀ l ∈ lines, ∃ contribution, l.read f = .ok contribution := by
    intro l hl
    obtain ⟨contribution, hsome⟩ := Option.isSome_iff_exists.1 (h l hl)
    exact ⟨contribution, LogicalLine.contribution?_eq_some_iff.1 hsome⟩
  constructor
  · intro l hl
    obtain ⟨contribution, hread⟩ := hok l hl
    rw [hread]
    exact nofun
  · refine List.filterMap_eq_nil_iff.2 fun l hl => ?_
    obtain ⟨contribution, hread⟩ := hok l hl
    rw [LogicalLine.refusal?, hread]

theorem linesWithout_refusals (h : Readable f (LogicalLine.split data)) :
    linesWithout data (refusals f (LogicalLine.split data)) =
      (LogicalLine.split data).filter fun l => (l.contribution? f).isSome := by
  refine List.filter_congr fun l hl => ?_
  rw [Bool.eq_iff_iff, decide_eq_true_iff, accepted_iff_not_refused (h l hl)]
  constructor
  · intro hnot
    by_contra hsome
    obtain ⟨e, he⟩ := Option.ne_none_iff_exists'.1 hsome
    refine hnot (List.mem_map.2 ⟨e, List.mem_filterMap.2 ⟨l, hl, he⟩, ?_⟩)
    exact LogicalLine.line_of_refusal? he
  · intro hnone hmem
    obtain ⟨e, he, hnumber⟩ := List.mem_map.1 hmem
    obtain ⟨m, hm, hme⟩ := List.mem_filterMap.1 he
    -- numbers rise through the data, so that a refusal tells its line
    have hsame : m = l := LogicalLine.eq_of_number_eq hm hl
      ((LogicalLine.line_of_refusal? hme).symm.trans hnumber)
    rw [hsame, hnone] at hme
    simp at hme

theorem mem_linesWithout_iff {strict : Bool} {c : Compiled}
    (hframe : Frame.ofStart start governing = .ok f)
    (h : compile data start governing strict = .ok c) {l : LogicalLine} :
    l ∈ linesWithout data c.skipped ↔
      l ∈ LogicalLine.split data ∧ (l.contribution? f).isSome = true := by
  obtain ⟨hread, rfl⟩ := eq_of_compile hframe h
  rw [linesWithout_refusals hread, List.mem_filter]

theorem contributions_filter_accepted (lines : List LogicalLine) :
    contributions f (lines.filter fun l => (l.contribution? f).isSome) = contributions f lines := by
  rw [contributions, contributions, List.filterMap_filter]
  refine List.filterMap_congr fun l _ => ?_
  cases l.contribution? f with
  | none => rfl
  | some contribution => rfl

theorem pairwise_refusals :
    (refusals f (LogicalLine.split data)).Pairwise fun a b => a.line < b.line := by
  refine (LogicalLine.pairwise_split data).filterMap _ fun l m hlm a ha b hb => ?_
  rw [LogicalLine.line_of_refusal? ha, LogicalLine.line_of_refusal? hb]
  exact hlm

theorem compile_joined {lines : List LogicalLine} (hframe : Frame.ofStart start governing = .ok f)
    (hunfolded : ∀ l ∈ lines, LogicalLine.IsUnfolded l.chars)
    (haccepted : ∀ l ∈ lines, (l.contribution? f).isSome) (strict : Bool) :
    compile ("\n".intercalate (lines.map LogicalLine.text)) start governing strict =
      .ok ⟨(contributions f lines).foldl add (ofFrame f), []⟩ := by
  -- joined lines have other numbers, which is why only their characters are compared
  let joined := LogicalLine.split ("\n".intercalate (lines.map LogicalLine.text))
  have hchars : joined.map LogicalLine.chars = lines.map LogicalLine.chars := by
    have htexts : lines.map LogicalLine.text = (lines.map LogicalLine.chars).map String.ofList := by
      rw [List.map_map]
      rfl
    show (LogicalLine.split _).map _ = _
    rw [htexts]
    exact LogicalLine.chars_split_intercalate (List.forall_mem_map.2 hunfolded)
  have hall : ∀ l ∈ joined, (l.contribution? f).isSome := by
    intro l hl
    have hmem : l.chars ∈ lines.map LogicalLine.chars := hchars ▸ List.mem_map_of_mem hl
    obtain ⟨m, hm, hsame⟩ := List.mem_map.1 hmem
    rw [LogicalLine.contribution?_congr hsame.symm]
    exact haccepted m hm
  have hcontributions : contributions f joined = contributions f lines := by
    rw [contributions_eq_of_chars, hchars, ← contributions_eq_of_chars]
  obtain ⟨hread, hnone⟩ := readable_of_accepted hall
  rw [compile, hframe, ← hcontributions]
  cases strict with
  | false => exact (addLines_lenient Resolver.faithful_empty).2 ⟨hread, by rw [hnone]; rfl⟩
  | true => exact (addLines_strict Resolver.faithful_empty).2 ⟨⟨hread, hnone⟩, rfl⟩

theorem compile_linesWithout (hframe : Frame.ofStart start governing = .ok f)
    (h : Readable f (LogicalLine.split data)) (strict : Bool) :
    compile ("\n".intercalate ((linesWithout data
        (refusals f (LogicalLine.split data))).map LogicalLine.text)) start governing strict =
      .ok ⟨(contributions f (LogicalLine.split data)).foldl add (ofFrame f), []⟩ := by
  rw [linesWithout_refusals h, ← contributions_filter_accepted (LogicalLine.split data)]
  refine compile_joined hframe (fun l hl => ?_) (fun l hl => ?_) strict
  · exact LogicalLine.isUnfolded_of_mem_split (List.mem_filter.1 hl).1
  · exact (List.mem_filter.1 hl).2

theorem compile_of_readable (hframe : Frame.ofStart start governing = .ok f)
    (h : Readable f (LogicalLine.split data)) :
    compile data start governing false =
      .ok ⟨(contributions f (LogicalLine.split data)).foldl add (ofFrame f),
        refusals f (LogicalLine.split data)⟩ := by
  rw [compile, hframe]
  exact (addLines_lenient Resolver.faithful_empty).2 ⟨h, rfl⟩

/-- What lenient reading comes to settles strict reading: of the lines that are left it gives the
same series, of all lines it gives that series if none was passed over, and otherwise it fails with
the error of the first one, which is reported at the physical line where that line starts. -/
theorem strict_of_lenient {lenient : Compiled}
    (h : compile data start governing false = .ok lenient) :
    compile ("\n".intercalate ((linesWithout data lenient.skipped).map LogicalLine.text)) start
        governing true = .ok ⟨lenient.series, []⟩ ∧
      (∀ c, compile data start governing true = .ok c ↔ lenient.skipped = [] ∧ c = lenient) ∧
      ∀ e others, lenient.skipped = e :: others →
        (∀ other ∈ others, e.line < other.line) ∧
        ∃ l ∈ LogicalLine.split data,
          (∃ first, (e.line, first) ∈ LogicalLine.physicalLines data.toList ∧
            ¬Text.isAllBlank first = true ∧ Text.trimStart first <+: l.chars) ∧
          l.number = e.line ∧
          compile data start governing true = .error (.line (e.withContent l.text)) := by
  cases hframe : Frame.ofStart start governing with
  | error e => simp [compile, hframe] at h
  | ok f =>
    obtain ⟨hread, rfl⟩ := eq_of_compile hframe h
    have hstrict : compile data start governing true =
        addLines f true {} ⟨ofFrame f, []⟩ (LogicalLine.split data) := by rw [compile, hframe]
    refine ⟨?joined, ?succeeds, ?fails⟩
    case joined => exact compile_linesWithout hframe hread true
    case succeeds =>
      intro c
      rw [hstrict, addLines_strict Resolver.faithful_empty]
      constructor
      · rintro ⟨⟨-, hnone⟩, rfl⟩
        exact ⟨hnone, by rw [hnone]⟩
      · rintro ⟨hnone, rfl⟩
        have hempty : refusals f (LogicalLine.split data) = [] := hnone
        exact ⟨⟨hread, hempty⟩, by rw [hempty]⟩
    case fails =>
      intro e others (he : refusals f (LogicalLine.split data) = e :: others)
      have hlater : (refusals f (LogicalLine.split data)).Pairwise fun a b => a.line < b.line :=
        pairwise_refusals
      rw [he] at hlater
      obtain ⟨l, hl, hrefused, hfails⟩ :=
        addLines_refused Resolver.faithful_empty ⟨ofFrame f, []⟩ hread he
      have hnumber : l.number = e.line := (LogicalLine.line_of_refusal? hrefused).symm
      have hstart := LogicalLine.start_of_mem_split hl
      rw [hnumber] at hstart
      exact ⟨(List.pairwise_cons.1 hlater).1, l, hl, hstart, hnumber, hstrict.trans hfails⟩

/-- A date list that goes wrong where it is folded adds nothing, and is reported at line 2. -/
theorem strict_of_lenient_folded_list :
    let data := "RDATE:20240102T000000Z\nRDATE:20240103T000000Z,\n 2024\nEXDATE:20240105"
    let start := Moment.ofSecond 1704099600 false
    ∃ lenient, compile data start Zone.utc false = .ok lenient ∧
      lenient.series.set.dates = [1704153600] ∧
      compile "RDATE:20240102T000000Z\nEXDATE:20240105" start Zone.utc true =
        .ok ⟨lenient.series, []⟩ ∧
      compile data start Zone.utc true = .error (.line {
        fault := .invalidDate
        line := 2
        column := 24
        context := some "`2024`"
        content := some "RDATE:20240103T000000Z,2024" }) := by
  intro data start
  obtain ⟨lenient, hcompile, hdates, hskipped⟩ :
      ∃ lenient, compile data start Zone.utc false = .ok lenient ∧
        lenient.series.set.dates = [1704153600] ∧
        lenient.skipped = [⟨.invalidDate, 2, 24, some "`2024`", none⟩] := by
    refine ⟨⟨⟨{
      start := 1704099600
      zone := Zone.utc
      dates := [1704153600]
      exclusionDates := [1704412800] }, false, []⟩, _⟩, ?_, rfl, rfl⟩
    decide +kernel
  obtain ⟨hjoined, -, hfails⟩ := strict_of_lenient hcompile
  obtain ⟨-, l, hl, -, hnumber, hstrict⟩ := hfails _ _ hskipped
  rw [hskipped] at hjoined
  refine ⟨lenient, hcompile, hdates, ?_, ?_⟩
  · have htext : "\n".intercalate ((linesWithout data
        [⟨.invalidDate, 2, 24, some "`2024`", none⟩]).map LogicalLine.text) =
          "RDATE:20240102T000000Z\nEXDATE:20240105" := by decide +kernel
    rw [← htext]
    exact hjoined
  · have htext : l.text = "RDATE:20240103T000000Z,2024" := by
      have hall : ∀ l ∈ LogicalLine.split data,
          l.number = 2 → l.text = "RDATE:20240103T000000Z,2024" := by decide +kernel
      exact hall l hl hnumber
    rw [hstrict, htext]
    rfl

end Almanac.Series
