import Almanac.Proofs.RecurrenceSet.Occurrences
import Almanac.Proofs.Series.Lines
import Almanac.Proofs.Series.Stream

/-! What a series of recurrence data hands out. The accepted lines add instants and take instants
away; if every rule gives its instants in order, the values come from the instants that are added
and not taken away, in increasing order and each of them once. -/

namespace Almanac

open Supply (toList)

namespace Contribution

def added (f : Frame) : Contribution → List Int
  | rule r => toList (Expansion.ofRule r f.zone f.start)
  | dates ds => ds.map PlacedDate.second
  | _ => []

def removed (f : Frame) : Contribution → List Int
  | exclusionRule r => toList (Expansion.ofRule r f.zone f.start)
  | exclusionDates ds => ds.map PlacedDate.second
  | _ => []

/-- A rule of the line gives its instants in order. -/
def Ascending (f : Frame) (c : Contribution) : Prop :=
  ∀ r, c = rule r ∨ c = exclusionRule r →
    (toList (Expansion.ofRule r f.zone f.start)).Pairwise (· ≤ ·)

end Contribution

namespace Series

variable {f : Frame}

/-- The instants that lines add, less those that they take away. -/
def occurrences (f : Frame) (cs : List Contribution) : Finset Int :=
  (cs.flatMap (Contribution.added f)).toFinset \ (cs.flatMap (Contribution.removed f)).toFinset

def StartsIn (f : Frame) (s : Series) : Prop :=
  s.set.zone = f.zone ∧ s.set.start = f.start

theorem startsIn_ofFrame (f : Frame) : StartsIn f (ofFrame f) :=
  ⟨rfl, rfl⟩

theorem StartsIn.add {s : Series} (h : StartsIn f s) (c : Contribution) : StartsIn f (s.add c) := by
  cases c with
  | rule r => exact h
  | exclusionRule r => exact h
  | dates ds => exact h
  | exclusionDates ds => exact h
  | nothing => exact h

theorem StartsIn.foldl {s : Series} (h : StartsIn f s) (cs : List Contribution) :
    StartsIn f (cs.foldl Series.add s) := by
  induction cs generalizing s with
  | nil => exact h
  | cons c cs ih => exact ih (h.add c)

theorem StartsIn.expand_eq {s : Series} (h : StartsIn f s) (r : Rule) :
    s.set.expand r = toList (Expansion.ofRule r f.zone f.start) := by
  rw [RecurrenceSet.expand, h.1, h.2]

theorem StartsIn.mem_added_add {s : Series} (h : StartsIn f s) (c : Contribution) (n : Int) :
    n ∈ (s.add c).set.added ↔ n ∈ s.set.added ∨ n ∈ c.added f := by
  cases c with
  | rule r =>
    rw [Contribution.added, ← h.expand_eq]
    show n ∈ (s.set.rules ++ [r]).flatMap s.set.expand ++ s.set.dates ↔ _
    rw [List.flatMap_append, List.flatMap_singleton, RecurrenceSet.added]
    simp only [List.mem_append]
    exact or_right_comm
  | dates ds =>
    show n ∈ s.set.rules.flatMap s.set.expand ++ (s.set.dates ++ ds.map PlacedDate.second) ↔ _
    rw [← List.append_assoc, List.mem_append]
    exact Iff.rfl
  | exclusionRule r => simp [Contribution.added, Series.add, RecurrenceSet.added]; rfl
  | exclusionDates ds => simp [Contribution.added, Series.add, RecurrenceSet.added]; rfl
  | nothing => simp [Contribution.added, Series.add]

theorem StartsIn.mem_removed_add {s : Series} (h : StartsIn f s) (c : Contribution) (n : Int) :
    n ∈ (s.add c).set.removed ↔ n ∈ s.set.removed ∨ n ∈ c.removed f := by
  cases c with
  | exclusionRule r =>
    rw [Contribution.removed, ← h.expand_eq]
    show n ∈ (s.set.exclusionRules ++ [r]).flatMap s.set.expand ++ s.set.exclusionDates ↔ _
    rw [List.flatMap_append, List.flatMap_singleton, RecurrenceSet.removed]
    simp only [List.mem_append]
    exact or_right_comm
  | exclusionDates ds =>
    show n ∈ s.set.exclusionRules.flatMap s.set.expand ++
      (s.set.exclusionDates ++ ds.map PlacedDate.second) ↔ _
    rw [← List.append_assoc, List.mem_append]
    exact Iff.rfl
  | rule r => simp [Contribution.removed, Series.add, RecurrenceSet.removed]; rfl
  | dates ds => simp [Contribution.removed, Series.add, addDates, RecurrenceSet.removed]; rfl
  | nothing => simp [Contribution.removed, Series.add]

theorem StartsIn.mem_foldl {s : Series} (h : StartsIn f s) (held : Series → List Int)
    (given : Contribution → List Int)
    (hstep : ∀ {s}, StartsIn f s → ∀ c n, n ∈ held (s.add c) ↔ n ∈ held s ∨ n ∈ given c)
    (cs : List Contribution) (n : Int) :
    n ∈ held (cs.foldl Series.add s) ↔ n ∈ held s ∨ n ∈ cs.flatMap given := by
  induction cs generalizing s with
  | nil => simp
  | cons c cs ih =>
    rw [List.foldl_cons, ih (h.add c), hstep h, List.flatMap_cons, List.mem_append, or_assoc]

theorem occurrences_foldl (f : Frame) (cs : List Contribution) :
    (cs.foldl Series.add (ofFrame f)).set.occurrences = occurrences f cs := by
  have hstart := startsIn_ofFrame f
  ext n
  rw [RecurrenceSet.mem_occurrences, occurrences, Finset.mem_sdiff, List.mem_toFinset,
    List.mem_toFinset,
    hstart.mem_foldl (fun s => s.set.added) (Contribution.added f) (fun hs => hs.mem_added_add),
    hstart.mem_foldl (fun s => s.set.removed) (Contribution.removed f)
      (fun hs => hs.mem_removed_add)]
  simp [ofFrame, RecurrenceSet.added, RecurrenceSet.removed]

theorem StartsIn.ascending_add {s : Series} (h : StartsIn f s) (hs : s.set.Ascending)
    {c : Contribution} (hc : c.Ascending f) : (s.add c).set.Ascending := by
  intro q hq
  rw [(h.add c).expand_eq, ← h.expand_eq]
  cases c with
  | rule r =>
    have hrules : q ∈ s.set.rules ++ [r] ∨ q ∈ s.set.exclusionRules := hq
    rw [List.mem_append, List.mem_singleton, or_right_comm] at hrules
    rcases hrules with hold | rfl
    · exact hs q hold
    · exact (h.expand_eq q).symm ▸ hc q (Or.inl rfl)
  | exclusionRule r =>
    have hrules : q ∈ s.set.rules ∨ q ∈ s.set.exclusionRules ++ [r] := hq
    rw [List.mem_append, List.mem_singleton, ← or_assoc] at hrules
    rcases hrules with hold | rfl
    · exact hs q hold
    · exact (h.expand_eq q).symm ▸ hc q (Or.inr rfl)
  | dates ds => exact hs q hq
  | exclusionDates ds => exact hs q hq
  | nothing => exact hs q hq

theorem ascending_foldl {cs : List Contribution} (h : ∀ c ∈ cs, c.Ascending f) {s : Series}
    (hstart : StartsIn f s) (hs : s.set.Ascending) : (cs.foldl Series.add s).set.Ascending := by
  induction cs generalizing s with
  | nil => exact hs
  | cons c cs ih =>
    obtain ⟨hc, hrest⟩ := List.forall_mem_cons.1 h
    exact ih hrest (hstart.add c) (hstart.ascending_add hs hc)

theorem seconds_of_ascending {s : Series} (h : s.set.Ascending) :
    s.seconds = s.set.occurrences.sort :=
  RecurrenceSet.rising_toList h

/-- The first `k` values stand for the `k` earliest occurrences, in increasing order and each once,
and no value is left only when there are no more occurrences. -/
theorem next_eq_occurrence {data : String} {start : Moment} {governing : Zone} {strict : Bool}
    {compiled : Compiled} (hframe : Frame.ofStart start governing = .ok f)
    (hcompile : compile data start governing strict = .ok compiled)
    (hrules : ∀ c ∈ contributions f (LogicalLine.split data), c.Ascending f) (k : Nat) :
    let cursor := compiled.series.cursor
    let occurring := occurrences f (contributions f (LogicalLine.split data))
    let instants := occurring.sort.map Instant.ofSecond
    (cursor.after k).next.1 = instants[k]?.map cursor.shown ∧
      (∀ t, instants[k]? = some t → (cursor.after (k + 1)).last = some t) ∧
      ((cursor.after k).next.1 = none ↔ instants.length ≤ k) := by
  intro cursor occurring instants
  have hseries := series_of_compile hframe hcompile
  have hasc : compiled.series.set.Ascending := by
    rw [hseries]
    exact ascending_foldl hrules (startsIn_ofFrame f) (fun r hr => by simp [ofFrame] at hr)
  have hahead : cursor.ahead = instants := by
    rw [ahead_cursor, seconds_of_ascending hasc, hseries, occurrences_foldl]
  have hvalue : (cursor.after k).next.1 = instants[k]?.map cursor.shown := by
    rw [Cursor.fst_next_after_of_none rfl, hahead]
  refine ⟨hvalue, fun t ht => Cursor.last_after rfl (hahead ▸ ht), ?_⟩
  rw [hvalue, Option.map_eq_none_iff, List.getElem?_eq_none_iff]

/-- A rule and repeated dates of which every second day is taken away. One of the days that are left
is a date as well, and one is given by the rule alone. -/
theorem next_eq_occurrence_overlapping :
    let data := "\n".intercalate
      ["RRULE:FREQ=DAILY;COUNT=4", "RDATE:20240102T090000Z,20240101T120000Z",
        "EXRULE:FREQ=DAILY;INTERVAL=2;COUNT=2", "RDATE:20240102T090000Z"]
    let shown (n : Int) := Moment.ofSecond n false
    ∃ compiled, compile data (shown 1704099600) Zone.utc true = .ok compiled ∧
      let cursor := compiled.series.cursor
      (cursor.after 0).next.1 = some (shown 1704110400) ∧
      (cursor.after 1).next.1 = some (shown 1704186000) ∧
      (cursor.after 2).next.1 = some (shown 1704358800) ∧ (cursor.after 3).next.1 = none := by
  intro data shown
  let f : Frame := ⟨1704099600, false, Zone.utc⟩
  let daily := (Contribution.readRule f "FREQ=DAILY;COUNT=4").toOption.get (by decide +kernel)
  let other :=
    (Contribution.readRule f "FREQ=DAILY;INTERVAL=2;COUNT=2").toOption.get (by decide +kernel)
  let noon : PlacedDate := ⟨1704110400, false⟩
  let second : PlacedDate := ⟨1704186000, false⟩
  have hframe : Frame.ofStart (shown 1704099600) Zone.utc = .ok f := by decide +kernel
  have hcs : contributions f (LogicalLine.split data) =
      [.rule daily, .dates [second, noon], .exclusionRule other, .dates [second]] := by
    decide +kernel
  have hdaily : toList (Expansion.ofRule daily f.zone f.start) =
      [1704099600, 1704186000, 1704272400, 1704358800] :=
    (Supply.toList_eq_draw (k := 5) (by decide +kernel)).trans (by decide +kernel)
  have hother : toList (Expansion.ofRule other f.zone f.start) = [1704099600, 1704272400] :=
    (Supply.toList_eq_draw (k := 3) (by decide +kernel)).trans (by decide +kernel)
  have hsort : (occurrences f (contributions f (LogicalLine.split data))).sort =
      [1704110400, 1704186000, 1704358800] := by
    have hset : occurrences f (contributions f (LogicalLine.split data)) =
        [1704110400, 1704186000, 1704358800].toFinset := by
      simp only [hcs, occurrences, List.flatMap_cons, List.flatMap_nil, Contribution.added,
        Contribution.removed, hdaily, hother, noon, second]
      decide
    rw [hset]
    exact (List.toFinset_sort _ (by decide)).2 (by decide)
  have hrules : ∀ c ∈ contributions f (LogicalLine.split data), c.Ascending f := by
    rw [hcs]
    intro c hc r hr
    have hr' : r = daily ∨ r = other := by
      rcases hr with rfl | rfl
      · exact Or.inl (by simpa using hc)
      · exact Or.inr (by simpa using hc)
    rcases hr' with rfl | rfl
    · rw [hdaily]
      decide
    · rw [hother]
      decide
  obtain ⟨compiled, hcompile, hday, hdays⟩ : ∃ compiled,
      compile data (shown 1704099600) Zone.utc true = .ok compiled ∧
        compiled.series.wholeDay = false ∧ compiled.series.wholeDays = [] :=
    ⟨⟨(contributions f (LogicalLine.split data)).foldl add (ofFrame f), []⟩, by decide +kernel⟩
  have hshown (n : Int) : compiled.series.cursor.shown (.ofSecond n) = shown n := by
    rw [shown_cursor, Series.shown, hday, hdays]
    rfl
  have hvalue (k : Nat) := (next_eq_occurrence hframe hcompile hrules k).1
  rw [hsort] at hvalue
  refine ⟨compiled, hcompile, ?_, ?_, ?_, ?_⟩
  · rw [hvalue, ← hshown]
    rfl
  · rw [hvalue, ← hshown]
    rfl
  · rw [hvalue, ← hshown]
    rfl
  · rw [hvalue]
    rfl

end Series

end Almanac
