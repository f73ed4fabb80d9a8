import Almanac.Proofs.Line.Columns
import Almanac.Proofs.Series.Placement
import Almanac.Proofs.Series.SameLines

/-! Dates that are added and taken away again. An instant that is taken away shows neither among the
values of a series nor in the shape of another, so that dates that are all taken away might as well
not be there: `values_addDates`. This is so of an EXDATE line after an RDATE line of the same text:
`compile_undone`. -/

namespace Almanac

open LineError (moved)

namespace Series

variable {s : Series} {ps : List PlacedDate} {n : Int}

theorem mem_seconds_iff (h : ∀ r ∈ s.set.exclusionRules, (s.set.expand r).Pairwise (· ≤ ·)) :
    n ∈ s.seconds ↔
      (∃ r ∈ s.set.rules, n ∈ Cursor.rising none (kept s.set.removed (s.set.expand r))) ∨
        n ∈ s.set.dates ∧ n ∉ s.set.removed :=
  RecurrenceSet.mem_rising_toList_iff h

theorem not_mem_removed_of_mem_seconds
    (h : ∀ r ∈ s.set.exclusionRules, (s.set.expand r).Pairwise (· ≤ ·)) (hn : n ∈ s.seconds) :
    n ∉ s.set.removed := by
  rcases (mem_seconds_iff h).1 hn with ⟨r, -, hrises⟩ | ⟨-, hkept⟩
  · exact (mem_kept.1 (Cursor.mem_of_mem_rising hrises)).2
  · exact hkept

theorem not_mem_of_not_mem_removed (hremoved : ∀ p ∈ ps, p.second ∈ s.set.removed)
    (hn : n ∉ s.set.removed) : n ∉ ps.map PlacedDate.second := by
  intro hmem
  obtain ⟨p, hp, rfl⟩ := List.mem_map.1 hmem
  exact hn (hremoved p hp)

theorem seconds_addDates (h : ∀ r ∈ s.set.exclusionRules, (s.set.expand r).Pairwise (· ≤ ·))
    (hremoved : ∀ p ∈ ps, p.second ∈ s.set.removed) :
    (s.addDates ps).seconds = s.seconds := by
  apply List.Pairwise.eq_of_mem_iff (Cursor.pairwise_rising _ _) (Cursor.pairwise_rising _ _)
  intro n
  have hdates : n ∈ (s.addDates ps).set.dates ∧ n ∉ s.set.removed ↔
      n ∈ s.set.dates ∧ n ∉ s.set.removed := by
    refine and_congr_left fun hkept => ?_
    show n ∈ s.set.dates ++ ps.map PlacedDate.second ↔ n ∈ s.set.dates
    rw [List.mem_append, or_iff_left (not_mem_of_not_mem_removed hremoved hkept)]
  exact (mem_seconds_iff (s := s.addDates ps) h).trans
    ((or_congr_right hdates).trans (mem_seconds_iff h).symm)

theorem shown_addDates (hremoved : ∀ p ∈ ps, p.second ∈ s.set.removed) (hn : n ∉ s.set.removed) :
    (s.addDates ps).shown n = s.shown n := by
  have hmarks : n ∉ (ps.filter PlacedDate.wholeDay).map PlacedDate.second := by
    refine not_mem_of_not_mem_removed (s := s) (fun p hp => ?_) hn
    exact hremoved p (List.mem_of_mem_filter hp)
  have hdays : (s.addDates ps).wholeDays.contains n = s.wholeDays.contains n := by
    rw [Bool.eq_iff_iff, List.contains_iff_mem, List.contains_iff_mem]
    show n ∈ s.wholeDays ++ (ps.filter PlacedDate.wholeDay).map PlacedDate.second ↔ _
    rw [List.mem_append, or_iff_left hmarks]
  rw [shown, shown, hdays]
  rfl

theorem values_addDates (h : ∀ r ∈ s.set.exclusionRules, (s.set.expand r).Pairwise (· ≤ ·))
    (hremoved : ∀ p ∈ ps, p.second ∈ s.set.removed) : (s.addDates ps).values = s.values := by
  rw [values_eq_map_shown, values_eq_map_shown, seconds_addDates h hremoved]
  apply List.map_congr_left
  intro n hn
  exact shown_addDates hremoved (not_mem_removed_of_mem_seconds h hn)

theorem values_dates_exclusionDates
    (h : ∀ r ∈ s.set.exclusionRules, (s.set.expand r).Pairwise (· ≤ ·)) :
    ((s.add (.dates ps)).add (.exclusionDates ps)).values =
      (s.add (.exclusionDates ps)).values := by
  let t := s.add (.exclusionDates ps)
  have hremoved : ∀ p ∈ ps, p.second ∈ t.set.removed := by
    intro p hp
    have hlisted : p.second ∈ s.set.exclusionDates ++ ps.map PlacedDate.second :=
      List.mem_append_right _ (List.mem_map_of_mem hp)
    exact List.mem_append_right _ hlisted
  -- the dates may as well be added once they are to be taken away
  show (t.addDates ps).values = t.values
  exact values_addDates (s := t) h hremoved

end Series

def LineFailure.moved (d : Nat) : LineFailure → LineFailure
  | refused e => refused (e.moved d)
  | brokenOff => brokenOff

def Property.written (p : Property) : WrittenName where
  chars := p.name.toList
  chars_ne_nil := by cases p <;> decide
  isNameChar := by cases p <;> exact List.all_eq_true.1 (by decide)

namespace WrittenName

variable {rest : List Char} {number : Nat} {l : ContentLine}

theorem property?_of_parse (p : Property) (h : FollowsName rest)
    (hparse : ContentLine.parse (String.ofList (p.written.chars ++ rest)) number = .ok l) :
    l.property? = some p := by
  have hname : l.name = Text.asciiUpper (String.ofList p.written.chars) := by
    rw [p.written.parse_append h, readAfter] at hparse
    split at hparse
    · simp at hparse
    · simp at hparse
    · obtain ⟨parameters, -, hl⟩ := bind_eq_ok_iff.1 hparse
      rw [← Except.ok.inj hl]
  rw [ContentLine.property?, hname]
  cases p <;> decide

end WrittenName

namespace Contribution

variable {f : Frame} {n' : WrittenName} {d number : Nat}

theorem ofDates_rename (resolver : Resolver) (l : ContentLine) :
    (ofDates f resolver (WrittenName.rename n' d l) number).1 =
      (ofDates f resolver l number).1.mapError (LineFailure.moved d) := by
  unfold ofDates
  rw [WrittenName.dateList_rename]
  cases l.dateList number with
  | error e => rfl
  | ok listed =>
    simp only [mapError_ok, WrittenName.valueColumn_rename]
    rcases placeAll f resolver listed with ⟨placed, after⟩
    cases placed with
    | error e => rfl
    | ok ps => rfl

end Contribution

namespace LogicalLine

def ofProperty (p : Property) (rest : List Char) (number : Nat) : LogicalLine :=
  ⟨number, p.written.chars ++ rest⟩

variable {f : Frame} {rest : List Char}

theorem parse_exdate (h : FollowsName rest) (number : Nat) :
    ContentLine.parse (ofProperty .exdate rest number).text number =
      ((ContentLine.parse (ofProperty .rdate rest number).text number).map
        (WrittenName.rename Property.exdate.written 1)).mapError (moved 1) :=
  WrittenName.parse_rename (n := Property.rdate.written) rfl h number

theorem read_renumber (f : Frame) (p : Property) (rest : List Char) (number number' : Nat) :
    (ofProperty p rest number').read f =
      ((ofProperty p rest number).read f).mapError (LineFailure.onLine number') :=
  Contribution.ofLine_renumber f number number' {} _

theorem read_rdate_exdate (f : Frame) (h : FollowsName rest) (number : Nat) :
    (∃ ps, (ofProperty .rdate rest number).read f = .ok (.dates ps) ∧
      (ofProperty .exdate rest number).read f = .ok (.exclusionDates ps)) ∨
    ∃ e, (ofProperty .rdate rest number).read f = .error (.refused e) ∧
      (ofProperty .exdate rest number).read f = .error (.refused (e.moved 1)) := by
  have hexdate := parse_exdate h number
  cases hparse : ContentLine.parse (ofProperty .rdate rest number).text number with
  | error e =>
    rw [hparse] at hexdate
    refine .inr ⟨e, ?_, ?_⟩
    · show (Contribution.ofLine f {} _ number).1 = _
      rw [Contribution.ofLine, hparse]
    · show (Contribution.ofLine f {} _ number).1 = _
      rw [Contribution.ofLine, hexdate]
      rfl
  | ok line =>
    rw [hparse] at hexdate
    have hrdate : line.property? = some .rdate := WrittenName.property?_of_parse .rdate h hparse
    have hproperty : (WrittenName.rename Property.exdate.written 1 line).property? =
        some .exdate := WrittenName.property?_of_parse .exdate h hexdate
    have hread : (ofProperty .rdate rest number).read f =
        (Contribution.ofDates f {} line number).1.map .dates :=
      read_dates hparse (.inl ⟨hrdate, rfl⟩)
    have hread' : (ofProperty .exdate rest number).read f =
        ((Contribution.ofDates f {} line number).1.mapError (LineFailure.moved 1)).map
          .exclusionDates := by
      rw [← Contribution.ofDates_rename]
      exact read_dates hexdate (.inr ⟨hproperty, rfl⟩)
    have hwhole : (Contribution.ofDates f {} line number).1 ≠ .error .brokenOff :=
      Contribution.ofDates_ne_brokenOff {}
    rw [hread, hread']
    rcases hdates : (Contribution.ofDates f {} line number).1 with (e | -) | ps
    · exact .inr ⟨e, rfl, rfl⟩
    · exact absurd hdates hwhole
    · exact .inl ⟨ps, rfl, rfl⟩

theorem followsName_dropEndWhile (h : FollowsName rest) :
    FollowsName (Text.dropEndWhile (· == '\r') rest) := by
  obtain ⟨c, others, rfl, hc⟩ := h
  have hreturn : (c == '\r') = false := by rcases hc with rfl | rfl <;> rfl
  obtain ⟨others', hothers⟩ := Text.dropEndWhile_cons (p := (· == '\r')) hreturn others
  exact ⟨c, others', hothers, hc⟩

theorem split_append_properties (lines : List String) (ps : List Property) {x : String}
    (h : FollowsName x.toList) (hbreak : '\n' ∉ x.toList) :
    split ("\n".intercalate (lines ++ ps.map fun p => p.name ++ x)) =
      split ("\n".intercalate lines) ++ (ps.zipIdx (1 + (brokenLines lines).length)).map
        fun p => ofProperty p.1 (Text.dropEndWhile (· == '\r') x.toList) p.2 := by
  have htexts : ps.map (fun p => p.name ++ x) =
      (ps.map fun p => p.written.chars ++ x.toList).map String.ofList := by
    rw [List.map_map]
    apply List.map_congr_left
    intro p _
    show p.name ++ x = String.ofList (p.name.toList ++ x.toList)
    rw [String.ofList_append, String.ofList_toList, String.ofList_toList]
  have hstart : ∀ cs ∈ ps.map fun p => p.written.chars ++ x.toList,
      '\n' ∉ cs ∧ ∃ c rest, cs = c :: rest ∧ Text.isBlank c = false := by
    intro cs hcs
    obtain ⟨p, -, rfl⟩ := List.mem_map.1 hcs
    refine ⟨fun hmem => ?_, ?_⟩
    · rcases List.mem_append.1 hmem with hname | hmem
      · exact p.written.not_mem rfl hname
      · exact hbreak hmem
    · cases p <;> exact ⟨_, _, rfl, by decide⟩
  have hends : (ps.map fun p => p.written.chars ++ x.toList).map
      (Text.dropEndWhile (· == '\r')) =
        ps.map fun p => p.written.chars ++ Text.dropEndWhile (· == '\r') x.toList := by
    rw [List.map_map]
    apply List.map_congr_left
    intro p _
    apply Text.dropEndWhile_append
    obtain ⟨c, others, hrest, -⟩ := followsName_dropEndWhile h
    exact hrest ▸ List.cons_ne_nil c others
  rw [htexts, split_intercalate_append lines hstart, hends, numbered, List.zipIdx_map,
    List.map_map, List.map_map]
  rfl

end LogicalLine

namespace Series

variable {f : Frame} {start : Moment} {governing : Zone} {data data' : String}
  {more : List LogicalLine}

theorem compile_append_error {e : SeriesError}
    (hdata : LogicalLine.split data' = LogicalLine.split data ++ more)
    (h : compile data start governing false = .error e) :
    compile data' start governing false = .error e := by
  cases hframe : Frame.ofStart start governing with
  | error fault =>
    rw [compile, hframe] at h ⊢
    exact h
  | ok f =>
    have hnot : ¬Readable f (LogicalLine.split data) := by
      intro hread
      simp [compile_of_readable hframe hread] at h
    have hnot' : ¬Readable f (LogicalLine.split data') := by
      rw [hdata]
      exact fun hread => hnot fun l hl => hread l (List.mem_append_left more hl)
    rw [compile, hframe] at h ⊢
    rw [← h]
    exact (addLines_of_not_readable Resolver.faithful_empty _ hnot').trans
      (addLines_of_not_readable Resolver.faithful_empty _ hnot).symm

theorem compile_append (hframe : Frame.ofStart start governing = .ok f)
    (hdata : LogicalLine.split data' = LogicalLine.split data ++ more) {base : Compiled}
    (h : compile data start governing false = .ok base) (hmore : Readable f more) :
    compile data' start governing false =
      .ok ⟨(contributions f more).foldl add base.series, base.skipped ++ refusals f more⟩ := by
  obtain ⟨hread, rfl⟩ := eq_of_compile hframe h
  have hread' : Readable f (LogicalLine.split data') := by
    rw [hdata]
    exact List.forall_mem_append.2 ⟨hread, hmore⟩
  rw [compile_of_readable hframe hread', hdata]
  simp only [contributions, refusals, List.filterMap_append, List.foldl_append]

theorem of_accepted {adds : List Contribution}
    (h : List.Forall₂ (fun l contribution => l.read f = .ok contribution) more adds) :
    Readable f more ∧ contributions f more = adds ∧ refusals f more = [] := by
  induction h with
  | nil => exact ⟨List.forall_mem_nil _, rfl, rfl⟩
  | @cons l _ _ _ hl _ ih =>
    obtain ⟨hread, hadds, hnone⟩ := ih
    have hunrefused : l.refusal? f = none := by rw [LogicalLine.refusal?, hl]
    refine ⟨readable_cons.2 ⟨by simp [hl], hread⟩, ?_, ?_⟩
    · rw [contributions, List.filterMap_cons_some (LogicalLine.contribution?_eq_some_iff.2 hl)]
      exact congrArg _ hadds
    · rw [refusals, List.filterMap_cons_none hunrefused]
      exact hnone

theorem of_refused {errors : List LineError}
    (h : List.Forall₂ (fun l e => l.read f = .error (.refused e)) more errors) :
    Readable f more ∧ contributions f more = [] ∧ refusals f more = errors := by
  induction h with
  | nil => exact ⟨List.forall_mem_nil _, rfl, rfl⟩
  | @cons l _ _ _ hl _ ih =>
    obtain ⟨hread, hnone, herrors⟩ := ih
    have hunaccepted : l.contribution? f = none := by
      rw [LogicalLine.contribution?, hl]
      rfl
    refine ⟨readable_cons.2 ⟨by simp [hl], hread⟩, ?_, ?_⟩
    · rw [contributions, List.filterMap_cons_none hunaccepted]
      exact hnone
    · rw [refusals, List.filterMap_cons_some (LogicalLine.refusal?_eq_some_iff.2 hl)]
      exact congrArg _ herrors

theorem compile_append_accepted (hframe : Frame.ofStart start governing = .ok f)
    (hdata : LogicalLine.split data' = LogicalLine.split data ++ more) {base : Compiled}
    (h : compile data start governing false = .ok base) {adds : List Contribution}
    (hmore : List.Forall₂ (fun l contribution => l.read f = .ok contribution) more adds) :
    compile data' start governing false = .ok ⟨adds.foldl add base.series, base.skipped⟩ := by
  obtain ⟨hread, hadds, hnone⟩ := of_accepted hmore
  rw [compile_append hframe hdata h hread, hadds, hnone, List.append_nil]

theorem compile_append_refused (hframe : Frame.ofStart start governing = .ok f)
    (hdata : LogicalLine.split data' = LogicalLine.split data ++ more) {base : Compiled}
    (h : compile data start governing false = .ok base) {errors : List LineError}
    (hmore : List.Forall₂ (fun l e => l.read f = .error (.refused e)) more errors) :
    compile data' start governing false = .ok ⟨base.series, base.skipped ++ errors⟩ := by
  obtain ⟨hread, hnone, herrors⟩ := of_refused hmore
  rw [compile_append hframe hdata h hread, hnone, herrors, List.foldl_nil]

/-- A list of dates is undone by a list of exclusion dates of the same text, whatever lines come
before. Either both lines are accepted, or both are refused, with the same fault and context and in
columns that differ by the one byte by which the second name is longer. A cursor hands out what it
would without the first line, provided that each exclusion rule gives its instants in order. -/
theorem compile_undone (lines : List String) {x : String} (hx : FollowsName x.toList)
    (hbreak : '\n' ∉ x.toList) (start : Moment) (governing : Zone) :
    let text (more : List String) : String := "\n".intercalate (lines ++ more)
    let undone := text ["RDATE" ++ x, "EXDATE" ++ x]
    let excluded := text ["EXDATE" ++ x]
    (∀ e, compile (text []) start governing false = .error e →
      compile undone start governing false = .error e ∧
        compile excluded start governing false = .error e) ∧
    ∀ base, compile (text []) start governing false = .ok base →
      ∃ c c', compile undone start governing false = .ok c ∧
        compile excluded start governing false = .ok c' ∧
        (c.skipped = base.skipped ∧ c'.skipped = base.skipped ∨
          ∃ e, c.skipped = base.skipped ++ [e, (e.moved 1).onLine (e.line + 1)] ∧
            c'.skipped = base.skipped ++ [e.moved 1]) ∧
        ((∀ r ∈ base.series.set.exclusionRules,
            (base.series.set.expand r).Pairwise (· ≤ ·)) →
          ∀ k, (c.series.cursor.after k).next.1 = (c'.series.cursor.after k).next.1) := by
  intro text undone excluded
  let rest := Text.dropEndWhile (· == '\r') x.toList
  let number := 1 + (LogicalLine.brokenLines lines).length
  let rdate := LogicalLine.ofProperty .rdate rest number
  let exdate := LogicalLine.ofProperty .exdate rest
  have htext : text [] = "\n".intercalate lines := by
    show "\n".intercalate (lines ++ []) = _
    rw [List.append_nil]
  have hundone : LogicalLine.split undone =
      LogicalLine.split (text []) ++ [rdate, exdate (number + 1)] := by
    rw [htext]
    exact LogicalLine.split_append_properties lines [.rdate, .exdate] hx hbreak
  have hexcluded : LogicalLine.split excluded =
      LogicalLine.split (text []) ++ [exdate number] := by
    rw [htext]
    exact LogicalLine.split_append_properties lines [.exdate] hx hbreak
  refine ⟨fun e he => ⟨compile_append_error hundone he, compile_append_error hexcluded he⟩, ?_⟩
  intro base hbase
  obtain ⟨f, hframe⟩ := exists_frame_of_compile hbase
  have hrenumber : (exdate (number + 1)).read f =
      ((exdate number).read f).mapError (LineFailure.onLine (number + 1)) :=
    LogicalLine.read_renumber f .exdate rest number (number + 1)
  rcases LogicalLine.read_rdate_exdate f (LogicalLine.followsName_dropEndWhile hx) number with
    ⟨ps, hrdate, hexdate⟩ | ⟨e, hrdate, hexdate⟩
  · have hundo : (exdate (number + 1)).read f = .ok (.exclusionDates ps) := by
      rw [hrenumber, hexdate]
      rfl
    refine ⟨_, _, compile_append_accepted hframe hundone hbase (.cons hrdate (.cons hundo .nil)),
      compile_append_accepted hframe hexcluded hbase (.cons hexdate .nil), .inl ⟨rfl, rfl⟩, ?_⟩
    intro hexclusion k
    rw [fst_next_cursor, fst_next_cursor]
    exact congrArg (·[k]?) (values_dates_exclusionDates hexclusion)
  · have hundo : (exdate (number + 1)).read f =
        .error (.refused ((e.moved 1).onLine (number + 1))) := by
      rw [hrenumber, hexdate]
      rfl
    have hline : e.line = number :=
      LogicalLine.line_of_refusal? (LogicalLine.refusal?_eq_some_iff.2 hrdate)
    refine ⟨_, _, compile_append_refused hframe hundone hbase (.cons hrdate (.cons hundo .nil)),
      compile_append_refused hframe hexcluded hbase (.cons hexdate .nil), .inr ⟨e, ?_, rfl⟩, ?_⟩
    · rw [hline]
    · exact fun _ _ => rfl

/-- A day and an instant of the rule are added and taken away; the day was marked as one. -/
theorem compile_undone_mixed :
    let text (more : List String) : String := "\n".intercalate
      (["RRULE:FREQ=DAILY;COUNT=3", "EXRULE:FREQ=DAILY;COUNT=1"] ++ more)
    let start := Moment.ofSecond 1704099600 false
    ∃ c c', compile (text ["RDATE:20240102,20240102T090000Z", "EXDATE:20240102,20240102T090000Z"])
        start Zone.utc false = .ok c ∧
      compile (text ["EXDATE:20240102,20240102T090000Z"]) start Zone.utc false = .ok c' ∧
      c.skipped = [] ∧ c.series.wholeDays = [1704153600] ∧
      ∀ k, (c.series.cursor.after k).next.1 = (c'.series.cursor.after k).next.1 := by
  intro text start
  let f : Frame := ⟨1704099600, false, Zone.utc⟩
  have hframe : Frame.ofStart start Zone.utc = .ok f := by decide +kernel
  have hbase : compile (text []) start Zone.utc false = .ok _ :=
    compile_of_readable hframe (by decide +kernel)
  obtain ⟨-, hundone⟩ := compile_undone ["RRULE:FREQ=DAILY;COUNT=3", "EXRULE:FREQ=DAILY;COUNT=1"]
    (x := ":20240102,20240102T090000Z") ⟨':', _, rfl, .inr rfl⟩ (by decide) start Zone.utc
  obtain ⟨c, c', h, h', -, hvalues⟩ := hundone _ hbase
  have hasc := ascending_of_compile hframe hbase (Expansion.placesInOrder_of_steady rfl)
  have hc := (eq_of_compile hframe h).2
  refine ⟨c, c', h, h', ?_, ?_, hvalues fun r hr => hasc r (Or.inr hr)⟩
  · rw [hc]
    decide +kernel
  · rw [hc]
    decide +kernel

/-- The column of a fault is that of a byte of its own line. -/
theorem columns_of_undone_differ :
    ∃ c e e', compile "RDATE:x\nEXDATE:x" (Moment.ofSecond 1704067200 true) Zone.utc false = .ok c ∧
      c.skipped = [e, e'] ∧ e.fault = e'.fault ∧ e.context = e'.context ∧ e.column ≠ e'.column := by
  refine ⟨⟨ofFrame ⟨1704067200, true, Zone.utc⟩, _⟩, ⟨.invalidDate, 1, 7, some "`x`", none⟩,
    ⟨.invalidDate, 2, 8, some "`x`", none⟩, ?_, rfl, rfl, rfl, by decide⟩
  decide +kernel

end Series

end Almanac
