import Almanac.Proofs.Line.Grammar
import Almanac.Proofs.Rule.Endings
import Almanac.Proofs.Series.Lenient
import Almanac.Proofs.Zone.Placement

/-! Rules that end at a day or a wall clock without a zone. Such an end stands for an instant in UTC,
and the line reads as it would with that instant in its place; where the clock never shows the end,
the line adds nothing: `compile_zoneless_end`. -/

namespace Almanac

variable {f : Frame} {start : Moment} {governing : Zone}

namespace Frame

theorem of_ofStart (h : ofStart start governing = .ok f) :
    f.wholeDay = start.isWholeDay ∧ f.governing = governing := by
  cases start with
  | wholeDay d =>
    obtain rfl := Except.ok.inj h
    exact ⟨rfl, rfl⟩
  | timed wall =>
    obtain ⟨instant, -, rfl⟩ := map_eq_ok_iff.1 h
    exact ⟨rfl, rfl⟩

end Frame

namespace Contribution

variable (t : EndingText) {value value' : List Char} {e e' : RuleEnd}

theorem endSecond_floating (h : Frame.ofStart start governing = .ok f) (wall : DateTime) :
    endSecond f (.floating wall) =
      if start.isWholeDay then .ok wall.toSeconds
      else (governing.place wall).map Instant.second := by
  obtain ⟨hwholeDay, hgoverning⟩ := Frame.of_ofStart h
  rw [endSecond, hwholeDay, hgoverning]

theorem readRule_eq_of_endSecond (h : RuleParts.readEnd? value = some e)
    (h' : RuleParts.readEnd? value' = some e') (hsame : endSecond f e = endSecond f e') :
    readRule f (t.text value) = readRule f (t.text value') := by
  have hending (p : RuleParts) := t.ending?_of_parse (p := p) h
  rw [readRule, readRule, t.parse_text h h']
  cases hparse : RuleParts.parse (t.text value) with
  | error failure => rfl
  | ok p =>
    simp only [Except.map, hending p hparse, hsame]
    rfl

theorem readRule_ne_ok (h : RuleParts.readEnd? value = some e) {fault : ZoneError}
    (hfault : endSecond f e = .error fault) (r : Rule) : readRule f (t.text value) ≠ .ok r := by
  have hending (p : RuleParts) := t.ending?_of_parse (p := p) h
  rw [readRule]
  rcases hparse : RuleParts.parse (t.text value) with (reason | -) | p
  · exact nofun
  · exact nofun
  · simp [hending p hparse, hfault, Except.map]

end Contribution

namespace EndingText

def written (t : EndingText) (l : WrittenLine) (value : List Char) : WrittenLine :=
  { l with value := t.chars value }

def line (t : EndingText) (l : WrittenLine) (number : Nat) (value : List Char) : LogicalLine :=
  ⟨number, (t.written l value).text.toList⟩

variable {l : WrittenLine} (t : EndingText) {number : Nat} {value value' : List Char}

theorem value_meaning_written : (t.written l value).meaning.value = t.text value :=
  rfl

theorem valueColumn_meaning_written :
    (t.written l value).meaning.valueColumn = l.meaning.valueColumn :=
  rfl

theorem exists_read_line (f : Frame) (number : Nat)
    (h : l.meaning.property? = some .rrule ∨ l.meaning.property? = some .exrule) :
    ∃ make : Rule → Contribution, ∀ value, (t.line l number value).read f =
      (Contribution.ofRule f (t.written l value).meaning number).map make := by
  have hparse (value : List Char) : ContentLine.parse (t.line l number value).text number =
      .ok (t.written l value).meaning := by
    rw [line, LogicalLine.text, String.ofList_toList]
    exact ContentLine.parse_text _ number
  have hproperty (value : List Char) :
      (t.written l value).meaning.property? = l.meaning.property? := rfl
  rcases h with h | h
  · refine ⟨.rule, fun value => ?_⟩
    show (Contribution.ofLine f {} (t.line l number value).text number).1 = _
    simp only [Contribution.ofLine, hparse, hproperty, h]
  · refine ⟨.exclusionRule, fun value => ?_⟩
    show (Contribution.ofLine f {} (t.line l number value).text number).1 = _
    simp only [Contribution.ofLine, hparse, hproperty, h]

theorem read_line_congr
    (h : l.meaning.property? = some .rrule ∨ l.meaning.property? = some .exrule)
    (hrule : Contribution.readRule f (t.text value) = Contribution.readRule f (t.text value')) :
    (t.line l number value).read f = (t.line l number value').read f := by
  obtain ⟨make, hmake⟩ := t.exists_read_line f number h
  rw [hmake, hmake, Contribution.ofRule, Contribution.ofRule]
  simp only [value_meaning_written, valueColumn_meaning_written, hrule]

theorem cases_of_readRule_ne_ok (number : Nat)
    (h : l.meaning.property? = some .rrule ∨ l.meaning.property? = some .exrule)
    (hrule : ∀ r, Contribution.readRule f (t.text value) ≠ .ok r) :
    RuleParts.BreaksOff (t.text value) ∧ (t.line l number value).read f = .error .brokenOff ∨
      ¬RuleParts.BreaksOff (t.text value) ∧ ∃ refusal,
        (t.line l number value).read f = .error (.refused refusal) ∧
          refusal.fault = .invalidRule := by
  obtain ⟨make, hmake⟩ := t.exists_read_line f number h
  rw [hmake, ← Contribution.readRule_eq_error_none_iff (f := f)]
  simp only [map_eq_error_iff, Contribution.ofRule, value_meaning_written]
  rcases hread : Contribution.readRule f (t.text value) with (- | reason) | r
  · simp
  · simp
  · exact absurd hread (hrule r)

end EndingText

namespace Series

variable {data data' : String} {before after : List LogicalLine} {l m : LogicalLine}

theorem readable_append_cons :
    Readable f (before ++ l :: after) ↔
      l.read f ≠ .error .brokenOff ∧ Readable f (before ++ after) := by
  simp only [Readable, List.forall_mem_append, List.forall_mem_cons]
  exact and_left_comm

theorem contributions_append_cons :
    contributions f (before ++ l :: after) =
      contributions f before ++ (l.contribution? f).toList ++ contributions f after := by
  cases hl : l.contribution? f with
  | none => simp [contributions, List.filterMap_cons_none hl]
  | some contribution => simp [contributions, List.filterMap_cons_some hl]

theorem refusals_append_cons :
    refusals f (before ++ l :: after) =
      refusals f before ++ (l.refusal? f).toList ++ refusals f after := by
  cases hl : l.refusal? f with
  | none => simp [refusals, List.filterMap_cons_none hl]
  | some refusal => simp [refusals, List.filterMap_cons_some hl]

theorem compile_congr (hframe : Frame.ofStart start governing = .ok f) (h : l.read f = m.read f)
    (hdata : LogicalLine.split data = before ++ l :: after)
    (hdata' : LogicalLine.split data' = before ++ m :: after) (strict : Bool) (c : Compiled) :
    compile data start governing strict = .ok c ↔
      compile data' start governing strict = .ok c := by
  have hcontributions :
      contributions f (before ++ l :: after) = contributions f (before ++ m :: after) := by
    rw [contributions_append_cons, contributions_append_cons, LogicalLine.contribution?, h]
    rfl
  have hrefusals : refusals f (before ++ l :: after) = refusals f (before ++ m :: after) := by
    rw [refusals_append_cons, refusals_append_cons, LogicalLine.refusal?, h]
    rfl
  have hreadable : Readable f (before ++ l :: after) ↔ Readable f (before ++ m :: after) := by
    rw [readable_append_cons, readable_append_cons, h]
  simp only [compile, hframe, hdata, hdata']
  cases strict with
  | false =>
    rw [addLines_lenient Resolver.faithful_empty, addLines_lenient Resolver.faithful_empty,
      hreadable, hcontributions, hrefusals]
  | true =>
    rw [addLines_strict Resolver.faithful_empty, addLines_strict Resolver.faithful_empty,
      hreadable, hcontributions, hrefusals]

theorem accepted_of_compile_strict (hframe : Frame.ofStart start governing = .ok f) {c : Compiled}
    (h : compile data start governing true = .ok c) :
    ∀ l ∈ LogicalLine.split data, ∃ contribution, l.read f = .ok contribution := by
  rw [compile, hframe] at h
  obtain ⟨⟨hread, hnone⟩, -⟩ := (addLines_strict Resolver.faithful_empty).1 h
  intro l hl
  have hrefusal : l.refusal? f = none := List.filterMap_eq_nil_iff.1 hnone l hl
  have haccepted := (accepted_iff_not_refused (hread l hl)).2 hrefusal
  obtain ⟨contribution, hsome⟩ := Option.isSome_iff_exists.1 haccepted
  exact ⟨contribution, LogicalLine.contribution?_eq_some_iff.1 hsome⟩

theorem compile_without_refused (hframe : Frame.ofStart start governing = .ok f) {e : LineError}
    (h : l.read f = .error (.refused e))
    (hdata : LogicalLine.split data = before ++ l :: after)
    (hdata' : LogicalLine.split data' = before ++ after) {c : Compiled} :
    compile data start governing false = .ok c ↔
      c.skipped = refusals f before ++ e :: refusals f after ∧
        compile data' start governing false =
          .ok ⟨c.series, refusals f before ++ refusals f after⟩ := by
  have hnone : l.contribution? f = none := by
    rw [LogicalLine.contribution?, h]
    rfl
  have hrefused : l.refusal? f = some e := LogicalLine.refusal?_eq_some_iff.2 h
  have hreadable : Readable f (before ++ l :: after) ↔ Readable f (before ++ after) := by
    rw [readable_append_cons, h]
    simp
  simp only [compile, hframe, hdata, hdata']
  rw [addLines_lenient Resolver.faithful_empty, addLines_lenient Resolver.faithful_empty,
    hreadable, contributions_append_cons, refusals_append_cons, hnone, hrefused]
  obtain ⟨series, skipped⟩ := c
  simp only [contributions, refusals, Compiled.mk.injEq, List.filterMap_append, Option.toList,
    List.append_nil, List.nil_append, List.append_assoc, List.singleton_append, and_true]
  tauto

/-- The end of a rule that is a day or a wall clock stands for the second in UTC at which the clock
shows it. Where there is such a second, written with a year of four digits, the line reads as it
would with that second in its place, and so does the data. Where there is none, the line is refused,
unless its text breaks reading off, and adds nothing. -/
theorem compile_zoneless_end (hframe : Frame.ofStart start governing = .ok f) {l : WrittenLine}
    (hrule : l.meaning.property? = some .rrule ∨ l.meaning.property? = some .exrule)
    (t : EndingText) {value : List Char} {wall : DateTime} (hvalue : RuleParts.Zoneless value wall)
    (number : Nat) :
    let line := t.line l number value
    let second : Except ZoneError Int :=
      if start.isWholeDay then .ok wall.toSeconds else (governing.place wall).map Instant.second
    (∀ n, second = .ok n → (DateTime.ofSeconds n).date.HasPlainYear →
      let inUtc := t.line l number (Rule.writeUtc n).toList
      line.read f = inUtc.read f ∧
        ∀ data data' before after, LogicalLine.split data = before ++ line :: after →
          LogicalLine.split data' = before ++ inUtc :: after →
          ∀ strict c, compile data start governing strict = .ok c ↔
            compile data' start governing strict = .ok c) ∧
    ∀ fault, second = .error fault →
      ((∃ refusal, line.read f = .error (.refused refusal) ∧ refusal.fault = .invalidRule) ↔
        ¬RuleParts.BreaksOff (t.text value)) ∧
      line.contribution? f = none ∧
      ∀ data data' before after, LogicalLine.split data = before ++ line :: after →
        LogicalLine.split data' = before ++ after → ∀ c,
          compile data start governing true ≠ .ok c ∧
          (compile data start governing false = .ok c →
            ∃ refusal earlier later, refusal.fault = .invalidRule ∧
              c.skipped = earlier ++ refusal :: later ∧
              compile data' start governing false = .ok ⟨c.series, earlier ++ later⟩) := by
  intro line second
  have hread : RuleParts.readEnd? value = some (.floating wall) :=
    RuleParts.readEnd?_eq_floating_iff.2 hvalue
  have hsecond : Contribution.endSecond f (.floating wall) = second :=
    Contribution.endSecond_floating hframe wall
  refine ⟨?anchored, ?refused⟩
  case anchored =>
    intro n hn hyear inUtc
    have hutc := RuleParts.readEnd?_writeUtc hyear
    have hsame : Contribution.endSecond f (.floating wall) =
        Contribution.endSecond f (.utc (DateTime.ofSeconds n)) := by
      rw [hsecond, hn, Contribution.endSecond, DateTime.toSeconds_ofSeconds]
    have hline : line.read f = inUtc.read f :=
      t.read_line_congr hrule (Contribution.readRule_eq_of_endSecond t hread hutc hsame)
    refine ⟨hline, ?_⟩
    intro data data' before after hdata hdata' strict c
    exact compile_congr hframe hline hdata hdata' strict c
  case refused =>
    intro fault hfault
    have hnone (r : Rule) : Contribution.readRule f (t.text value) ≠ .ok r :=
      Contribution.readRule_ne_ok t hread (hsecond.trans hfault) r
    have hcases := t.cases_of_readRule_ne_ok number hrule hnone
    have hnot (contribution : Contribution) : line.read f ≠ .ok contribution := by
      rcases hcases with ⟨-, hread⟩ | ⟨-, refusal, hread, -⟩
      · exact fun hok => nomatch hread.symm.trans hok
      · exact fun hok => nomatch hread.symm.trans hok
    refine ⟨?reported, ?nothing, ?left⟩
    case reported =>
      rcases hcases with ⟨hbreaks, hread⟩ | ⟨hbreaks, hread⟩
      · refine iff_of_false ?_ (not_not_intro hbreaks)
        rintro ⟨refusal, hrefused, -⟩
        exact nomatch hread.symm.trans hrefused
      · exact iff_of_true hread hbreaks
    case nothing =>
      apply Option.eq_none_iff_forall_ne_some.2
      intro contribution hsome
      exact hnot contribution (LogicalLine.contribution?_eq_some_iff.1 hsome)
    case left =>
      intro data data' before after hdata hdata' c
      have hmem : line ∈ LogicalLine.split data := by
        rw [hdata]
        exact List.mem_append_right before List.mem_cons_self
      constructor
      · intro hstrict
        obtain ⟨contribution, hok⟩ := accepted_of_compile_strict hframe hstrict line hmem
        exact hnot contribution hok
      · intro hlenient
        rcases hcases with ⟨-, hread⟩ | ⟨-, refusal, hread, hinvalid⟩
        · exact absurd hread ((eq_of_compile hframe hlenient).1 line hmem)
        · obtain ⟨hskipped, hwithout⟩ :=
            (compile_without_refused hframe hread hdata hdata').1 hlenient
          exact ⟨refusal, _, _, hinvalid, hskipped, hwithout⟩

/-- An exclusion rule ends at a wall clock that is shown twice, and it is the earlier of the two
seconds that counts; a rule ends on a day that the clock leaves out, and is passed over. -/
theorem compile_zoneless_end_twice_or_never :
    (let lines (finish : String) := "\n".intercalate
        ["RRULE:FREQ=DAILY;COUNT=3", "EXRULE:until=" ++ finish ++ ";FREQ=HOURLY"]
      let start := Moment.ofSecond 1546216200 false
      ∃ saoTome c, Zone.named? "Africa/Sao_Tome" = some saoTome ∧
        saoTome.readings (DateTime.ofSeconds 1546306200) = [1546302600, 1546306200] ∧
        compile (lines "20190101T003000Z") start saoTome true = .ok c ∧
        compile (lines "20190101T013000") start saoTome true = .ok c) ∧
      let start := Moment.ofSecond 1322730000 false
      ∃ fakaofo c, Zone.named? "Pacific/Fakaofo" = some fakaofo ∧
        compile "RDATE:20120105\nRRULE:FREQ=DAILY;UNTIL=20111230" start fakaofo false = .ok c ∧
        c.skipped.map LineError.fault = [.invalidRule] ∧
        ∃ skipped, compile "RDATE:20120105" start fakaofo false = .ok ⟨c.series, skipped⟩ := by
  refine ⟨?twice, ?never⟩
  case twice =>
    intro lines start
    let f : Frame := ⟨1546212600, false, Zone.saoTome⟩
    let l : WrittenLine :=
      ⟨⟨"EXRULE".toList, by decide +kernel, List.all_eq_true.1 (by decide +kernel)⟩, [], []⟩
    let t : EndingText := {
      lead? := none
      before := []
      key := "until".toList
      after := ["FREQ=HOURLY".toList]
      ofName?_key := by decide +kernel
      no_semicolon := by decide +kernel
      no_colon_lead := nofun
      no_colon := fun _ => by decide +kernel }
    have hframe : Frame.ofStart start Zone.saoTome = .ok f := by decide +kernel
    have hvalue : RuleParts.Zoneless "20190101T013000".toList (DateTime.ofSeconds 1546306200) :=
      RuleParts.readEnd?_eq_floating_iff.1 (by decide +kernel)
    obtain ⟨hanchored, -⟩ := compile_zoneless_end hframe (l := l) (Or.inr (by decide +kernel)) t hvalue 2
    obtain ⟨-, hsame⟩ := hanchored 1546302600 (by decide +kernel) (by decide +kernel)
    have hread := hsame (lines "20190101T013000") (lines "20190101T003000Z")
      [⟨1, "RRULE:FREQ=DAILY;COUNT=3".toList⟩] [] (by decide +kernel) (by decide +kernel) true
    let c := (compile (lines "20190101T003000Z") start Zone.saoTome true).toOption.get
      (by decide +kernel)
    have hcompile : compile (lines "20190101T003000Z") start Zone.saoTome true = .ok c :=
      eq_ok_get _
    exact ⟨Zone.saoTome, c, Zone.named?_saoTome, by decide +kernel, hcompile, (hread c).2 hcompile⟩
  case never =>
    intro start
    let f : Frame := ⟨1322769600, false, Zone.fakaofo⟩
    let l : WrittenLine :=
      ⟨⟨"RRULE".toList, by decide +kernel, List.all_eq_true.1 (by decide +kernel)⟩, [], []⟩
    let t : EndingText := {
      lead? := none
      before := ["FREQ=DAILY".toList]
      key := "UNTIL".toList
      after := []
      ofName?_key := by decide +kernel
      no_semicolon := by decide +kernel
      no_colon_lead := nofun
      no_colon := fun _ => by decide +kernel }
    have hframe : Frame.ofStart start Zone.fakaofo = .ok f := by decide +kernel
    have hvalue : RuleParts.Zoneless "20111230".toList (DateTime.ofSeconds 1325203200) :=
      RuleParts.readEnd?_eq_floating_iff.1 (by decide +kernel)
    have hplace : Zone.fakaofo.place (DateTime.ofSeconds 1325203200) =
        .error (.skippedTime (DateTime.ofSeconds 1325203200) "Pacific/Fakaofo") := by
      decide +kernel
    obtain ⟨-, hrefused⟩ := compile_zoneless_end hframe (l := l) (Or.inl (by decide +kernel)) t hvalue 2
    obtain ⟨-, -, hleft⟩ := hrefused _ (by
      show (Zone.fakaofo.place (DateTime.ofSeconds 1325203200)).map Instant.second = _
      rw [hplace]
      rfl)
    let data := "RDATE:20120105\nRRULE:FREQ=DAILY;UNTIL=20111230"
    let c := (compile data start Zone.fakaofo false).toOption.get (by decide +kernel)
    have hcompile : compile data start Zone.fakaofo false = .ok c := eq_ok_get _
    obtain ⟨refusal, earlier, later, -, -, hwithout⟩ := (hleft data "RDATE:20120105"
      [⟨1, "RDATE:20120105".toList⟩] [] (by decide +kernel) (by decide +kernel) c).2 hcompile
    exact ⟨Zone.fakaofo, c, Zone.named?_fakaofo, hcompile, by decide +kernel, _, hwithout⟩

/-- The rule ends on a day that the clock leaves out, and its weekday is cut inside the euro sign:
the line is not refused. -/
theorem broken_off_at_end_left_out :
    let data := "RRULE:FREQ=DAILY;UNTIL=20111230T100000;BYDAY=M€\nRDATE:20120105"
    let start := Moment.ofSecond 1322730000 false
    ∃ fakaofo empty, Zone.named? "Pacific/Fakaofo" = some fakaofo ∧
      (fakaofo.place (DateTime.ofSeconds 1325239200)).toOption = none ∧
      compile "" start fakaofo false = .ok empty ∧
      compile data start fakaofo false = .error .brokenOff := by
  intro data start
  refine ⟨Zone.fakaofo, (compile "" start Zone.fakaofo false).toOption.get (by decide +kernel),
    Zone.named?_fakaofo, by decide +kernel, eq_ok_get _, by decide +kernel⟩

end Series

end Almanac
