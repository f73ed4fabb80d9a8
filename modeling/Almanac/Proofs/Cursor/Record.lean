import Almanac.Proofs.Calendar.Moment
import Almanac.Proofs.Cursor.RunningMaxima
import Almanac.Proofs.Cursor.Session

/-! The order of what a cursor hands out. A `RecordedCursor` is a cursor that remembers the values it
has handed out or discarded and the instants behind them. Whatever its source gives, and whatever is
asked of it, these instants are the running maxima of those it has drawn: `instants_rise`. The values
show them rounded down, and so they never go back but may repeat: `held_value_repeats`. -/

namespace Almanac

/-- Asked so far, the supply `s` has given the list in its order and has become `s'`. -/
inductive Supply.Drawn {σ α : Type} [Supply σ α] (s : σ) : List α → σ → Prop
  | start : Drawn s [] s
  | given {as : List α} {s' s'' : σ} {a : α} :
    Drawn s as s' → Supply.next s' = (some a, s'') → Drawn s (as ++ [a]) s''
  | ended {as : List α} {s' s'' : σ} :
    Drawn s as s' → Supply.next s' = (none, s'') → Drawn s as s''

namespace Cursor

variable {σ : Type} [Supply σ Instant] {target m : Moment} {c c' : Cursor σ}

theorem advance_of_none (h : c.peek = (none, c')) (discarded : Nat) :
    advance target discarded c = (discarded, c') := by
  rw [advance]
  split <;> simp_all

theorem advance_of_precedes (h : c.peek = (some m, c')) (hm : m.Precedes target)
    (discarded : Nat) :
    advance target discarded c = advance target (discarded + 1) { c' with peeked := none } := by
  rw [advance.eq_def _ _ c]
  split <;> simp_all

theorem advance_of_not_precedes (h : c.peek = (some m, c')) (hm : ¬m.Precedes target)
    (discarded : Nat) : advance target discarded c = (discarded, c') := by
  rw [advance]
  split <;> simp_all

theorem peeked_pull (c : Cursor σ) : c.pull.2.peeked = c.peeked := by
  fun_induction pull c with
  | case1 c source hnext => rfl
  | case2 c t source hnext hle ih => exact ih
  | case3 c t source hnext hlt => rfl

theorem peeked_peek (c : Cursor σ) : c.peek.2.peeked = c.peek.1 := by
  unfold peek
  split
  · next m hm => exact hm
  · rfl

theorem next_eq_peek (c : Cursor σ) : c.next = (c.peek.1, { c.peek.2 with peeked := none }) := by
  unfold next peek
  split
  · rfl
  · next hnone =>
    have hafter : c.pull.2.peeked = none := (peeked_pull c).trans hnone
    rcases hpull : c.pull with ⟨m, c'⟩
    rw [hpull] at hafter
    obtain ⟨source, wholeDay, wholeDays, peeked, last⟩ := c'
    obtain rfl : peeked = none := hafter
    rfl

theorem pull_drawn {s : σ} {ts : List Instant} (hdrawn : Supply.Drawn s ts c.source)
    (hlast : c.last = ts.max?) :
    ∃ ts' source, Supply.Drawn s ts' source ∧
      ((runningMaxima ts' = runningMaxima ts ∧ ts'.max? = ts.max? ∧
          c.pull = (none, { c with source })) ∨
        ∃ t, runningMaxima ts' = runningMaxima ts ++ [t] ∧ ts'.max? = some t ∧
          c.pull = (some (c.shown t), { c with source, last := some t })) := by
  -- along the draws: the last instant kept is the maximum of those drawn, so that it decides alone
  -- whether the next is one of the maxima
  fun_induction pull c generalizing ts with
  | case1 c source hnext => exact ⟨ts, source, hdrawn.ended hnext, Or.inl ⟨rfl, rfl, rfl⟩⟩
  | case2 c t source hnext hle ih =>
    obtain ⟨l, hl, ht⟩ := exists_of_any_le hle
    have hmax : ts.max? = some l := hlast.symm.trans hl
    have hsame : (ts ++ [t]).max? = ts.max? := (max?_concat_of_le hmax ht).trans hmax.symm
    have hmaxima : runningMaxima (ts ++ [t]) = runningMaxima ts :=
      runningMaxima_of_le (List.max?_eq_some_iff.1 hmax).1 ht
    have hafter := ih (hdrawn.given hnext) (hlast.trans hsame.symm)
    rw [hmaxima, hsame] at hafter
    exact hafter
  | case3 c t source hnext hlt =>
    have hlater : ∀ i ∈ ts, i < t := lt_of_not_any_max? (hlast ▸ hlt)
    exact ⟨ts ++ [t], source, hdrawn.given hnext,
      Or.inr ⟨t, runningMaxima_of_lt hlater, max?_concat_of_lt hlater, rfl⟩⟩

end Cursor

/-- A cursor and a record of what it has handed out or discarded. -/
structure RecordedCursor (σ : Type) where
  cursor : Cursor σ
  values : List Moment
  /-- The instants behind the values. -/
  instants : List Instant

namespace RecordedCursor

open Supply (Drawn)

variable {σ : Type}

def ofCursor (c : Cursor σ) : RecordedCursor σ :=
  ⟨c, [], []⟩

def record (t : RecordedCursor σ) (m : Moment) (c : Cursor σ) : RecordedCursor σ :=
  ⟨c, t.values ++ [m], t.instants ++ c.last.toList⟩

/-- The instant behind the value that is looked at and kept. -/
def held? (t : RecordedCursor σ) : Option Instant :=
  if t.cursor.peeked.isSome then t.cursor.last else none

variable [Supply σ Instant]

def advance (target : Moment) (discarded : Nat) (t : RecordedCursor σ) :
    Nat × RecordedCursor σ :=
  match _h : t.cursor.peek with
  | (none, c) => (discarded, { t with cursor := c })
  | (some m, c) =>
    if m.Precedes target then
      advance target (discarded + 1) (t.record m { c with peeked := none })
    else (discarded, { t with cursor := c })
termination_by t.cursor.size
decreasing_by
  have h := Cursor.size_peek_le _h
  have hp := h.2
  have hle := h.1
  simp only [Cursor.size, record, hp, if_true, Option.isSome_none, Bool.false_eq_true,
    if_false] at hle ⊢
  omega

instance : OccurrenceCursor (RecordedCursor σ) where
  hasNext t :=
    let (m, c) := t.cursor.peek
    (m.isSome, { t with cursor := c })
  next t :=
    match t.cursor.next with
    | (none, c) => (none, { t with cursor := c })
    | (some m, c) => (some m, t.record m c)
  advanceTo target t := advance target 0 t

theorem advance_cursor (target : Moment) (discarded : Nat) (t : RecordedCursor σ) :
    (advance target discarded t).1 = (Cursor.advance target discarded t.cursor).1 ∧
      (advance target discarded t).2.cursor = (Cursor.advance target discarded t.cursor).2 := by
  fun_induction advance target discarded t with
  | case1 discarded t c hpeek =>
    rw [Cursor.advance_of_none hpeek]
    exact ⟨rfl, rfl⟩
  | case2 discarded t m c hpeek hbefore ih =>
    rw [Cursor.advance_of_precedes hpeek hbefore]
    exact ih
  | case3 discarded t m c hpeek hbefore =>
    rw [Cursor.advance_of_not_precedes hpeek hbefore]
    exact ⟨rfl, rfl⟩

theorem inStep_cursor : InStep fun (t : RecordedCursor σ) (c : Cursor σ) => t.cursor = c := by
  rintro t _ rfl operation
  cases operation with
  | hasNext => exact ⟨rfl, rfl⟩
  | next =>
    have hnext : (OccurrenceCursor.next t).1 = t.cursor.next.1 ∧
        (OccurrenceCursor.next t).2.cursor = t.cursor.next.2 := by
      rcases hc : t.cursor.next with ⟨- | m, c⟩
      · simp only [OccurrenceCursor.next, hc, and_self]
      · simp only [OccurrenceCursor.next, hc, record, and_self]
    exact ⟨congrArg Answer.value hnext.1, hnext.2⟩
  | advanceTo target =>
    obtain ⟨hcount, hcursor⟩ := advance_cursor target 0 t
    exact ⟨congrArg Answer.discarded hcount, hcursor⟩

/-- The record of a cursor that was `start` at first and has drawn the instants since then. -/
structure IsRecord (start : Cursor σ) (ts : List Instant) (t : RecordedCursor σ) : Prop where
  drawn : Drawn start.source ts t.cursor.source
  shown : t.cursor.shown = start.shown
  last : t.cursor.last = ts.max?
  instants : t.instants ++ t.held?.toList = runningMaxima ts
  values : t.values ++ t.cursor.peeked.toList = (runningMaxima ts).map start.shown

variable {start : Cursor σ} {ts : List Instant} {t : RecordedCursor σ}

theorem IsRecord.record (h : IsRecord start ts t) {m : Moment} (hm : t.cursor.peeked = some m) :
    IsRecord start ts (t.record m { t.cursor with peeked := none }) := by
  have hheld : t.held? = t.cursor.last := by
    rw [held?, hm]
    rfl
  refine ⟨h.drawn, h.shown, h.last, ?_, ?_⟩
  · have hinstants := h.instants
    rw [hheld] at hinstants
    exact (List.append_nil _).trans hinstants
  · have hvalues := h.values
    rw [hm] at hvalues
    exact (List.append_nil _).trans hvalues

theorem IsRecord.peek (h : IsRecord start ts t) :
    ∃ ts', IsRecord start ts' { t with cursor := t.cursor.peek.2 } := by
  cases hpeeked : t.cursor.peeked with
  | some m =>
    have hsame : t.cursor.peek.2 = t.cursor := by rw [Cursor.peek, hpeeked]
    rw [hsame]
    exact ⟨ts, h⟩
  | none =>
    have hinstants : t.instants = runningMaxima ts := by
      have hall := h.instants
      rw [held?, hpeeked] at hall
      exact (List.append_nil _).symm.trans hall
    have hvalues : t.values = (runningMaxima ts).map start.shown := by
      have hall := h.values
      rw [hpeeked] at hall
      exact (List.append_nil _).symm.trans hall
    have hpeek : t.cursor.peek.2 = { t.cursor.pull.2 with peeked := t.cursor.pull.1 } := by
      rw [Cursor.peek, hpeeked]
    -- nothing is held, so the record is of all maxima so far and takes the next one on
    obtain ⟨ts', source, hdrawn, hpull⟩ := Cursor.pull_drawn h.drawn h.last
    rw [hpeek]
    rcases hpull with ⟨hmaxima, hmax, hpull⟩ | ⟨i, hmaxima, hmax, hpull⟩
    · rw [hpull]
      refine ⟨ts', hdrawn, h.shown, h.last.trans hmax.symm, ?_, ?_⟩
      · rw [hmaxima, ← hinstants]
        exact List.append_nil _
      · rw [hmaxima, ← hvalues]
        exact List.append_nil _
    · rw [hpull]
      refine ⟨ts', hdrawn, h.shown, hmax.symm, ?_, ?_⟩
      · rw [hmaxima, ← hinstants]
        rfl
      · rw [hmaxima, List.map_append, ← hvalues, ← h.shown]
        rfl

theorem IsRecord.next (h : IsRecord start ts t) :
    ∃ ts', IsRecord start ts' (OccurrenceCursor.next t).2 := by
  obtain ⟨ts', hpeek⟩ := h.peek
  have hpeeked := Cursor.peeked_peek t.cursor
  refine ⟨ts', ?_⟩
  simp only [OccurrenceCursor.next, Cursor.next_eq_peek]
  cases hvalue : t.cursor.peek.1 with
  | none =>
    -- the source has ended and there is nothing to let go
    have hsame : { t.cursor.peek.2 with peeked := none } = t.cursor.peek.2 := by
      rw [← hpeeked.trans hvalue]
    rw [hsame]
    exact hpeek
  | some m => exact hpeek.record (hpeeked.trans hvalue)

theorem IsRecord.advance (h : IsRecord start ts t) (target : Moment) (discarded : Nat) :
    ∃ ts', IsRecord start ts' (advance target discarded t).2 := by
  fun_induction RecordedCursor.advance target discarded t generalizing ts with
  | case1 discarded t c hpeek =>
    have hafter := h.peek
    rw [hpeek] at hafter
    exact hafter
  | case2 discarded t m c hpeek hbefore ih =>
    obtain ⟨ts', hafter⟩ := h.peek
    have hpeeked := Cursor.peeked_peek t.cursor
    rw [hpeek] at hafter hpeeked
    exact ih (hafter.record hpeeked)
  | case3 discarded t m c hpeek hbefore =>
    have hafter := h.peek
    rw [hpeek] at hafter
    exact hafter

theorem IsRecord.run (h : IsRecord start ts t) (operation : Operation) :
    ∃ ts', IsRecord start ts' (operation.run t).2 := by
  cases operation with
  | hasNext => exact h.peek
  | next => exact h.next
  | advanceTo target => exact h.advance target 0

theorem isRecord_ofSource (source : σ) (wholeDay : Bool) (wholeDays : List Instant) :
    IsRecord (Cursor.ofSource source wholeDay wholeDays) []
      (ofCursor (Cursor.ofSource source wholeDay wholeDays)) :=
  ⟨.start, rfl, rfl, rfl, rfl⟩

end RecordedCursor

namespace Cursor

variable {σ : Type} [Supply σ Instant]

/-- Whatever the source gives and whatever is asked of a cursor and its copies, the instants behind
what a cursor has handed out or discarded, and behind the value it holds, are the running maxima of
those that it has drawn. The values never go back, and they go up from one to another just if their
instants lie in different seconds, or on different days in a series of days. -/
theorem instants_rise (source : σ) (wholeDay : Bool) (days : List Date) (requests : List Request) :
    let start := ofSource source wholeDay (days.map fun d => (Moment.wholeDay d).toInstant)
    let recorded := cursorsAfter (RecordedCursor.ofCursor start) [] requests
    (answers (RecordedCursor.ofCursor start) [] requests = answers start [] requests ∧
      recorded.map RecordedCursor.cursor = cursorsAfter start [] requests) ∧
    ∀ t ∈ recorded, ∃ ts, Supply.Drawn source ts t.cursor.source ∧
      t.instants ++ t.held?.toList = runningMaxima ts ∧
      t.values ++ t.cursor.peeked.toList = (t.instants ++ t.held?.toList).map start.shown ∧
      (t.instants ++ t.held?.toList).Pairwise fun i j =>
        i < j ∧ start.shown i ≤ start.shown j ∧
          ((start.shown i).Precedes (start.shown j) ↔
            if wholeDay then i.second / 86400 < j.second / 86400 else i.second < j.second) := by
  intro start recorded
  refine ⟨⟨?answers, ?cursors⟩, ?order⟩
  case answers => exact RecordedCursor.inStep_cursor.answers_eq rfl List.Forall₂.nil requests
  case cursors =>
    have hstep : List.Forall₂ (fun t c => t.cursor = c) recorded (cursorsAfter start [] requests) :=
      RecordedCursor.inStep_cursor.forall₂_cursorsAfter rfl List.Forall₂.nil requests
    rw [← List.forall₂_eq_eq_eq, List.forall₂_map_left_iff]
    exact hstep
  case order =>
    intro t ht
    obtain ⟨ts, h⟩ : ∃ ts, RecordedCursor.IsRecord start ts t :=
      forall_mem_cursorsAfter (P := fun t => ∃ ts, RecordedCursor.IsRecord start ts t)
        ⟨[], RecordedCursor.isRecord_ofSource ..⟩
        (fun t ⟨ts, h⟩ operation => h.run operation) (fun t ht => absurd ht List.not_mem_nil)
        requests t ht
    have hmid : ∀ i ∈ start.wholeDays, i.second % 86400 = 0 := by
      intro i hi
      obtain ⟨d, -, rfl⟩ := List.mem_map.1 hi
      show (Moment.wholeDay d).second % 86400 = 0
      rw [Moment.second_wholeDay]
      omega
    have hwhole : ∀ i ∈ start.wholeDays, i.nanosecond = 0 := by
      intro i hi
      obtain ⟨d, -, rfl⟩ := List.mem_map.1 hi
      rfl
    rw [h.instants, h.values]
    refine ⟨ts, h.drawn, rfl, rfl, (pairwise_runningMaxima ts).imp fun {i j} hij => ?_⟩
    exact ⟨hij, shown_le hmid hwhole hij, precedes_shown_iff hmid⟩

/-- Two instants in one second, and two on one day of a series of days. While the later one is held,
its value is the one that was handed out for the earlier, and it is handed out again. -/
theorem held_value_repeats :
    let newYear := Moment.ofSecond 1704067200 false
    let day := Moment.ofSecond 1704067200 true
    let timed : Cursor (List Instant) :=
      ofSource [⟨1704067200, 250000000, by decide⟩, ⟨1704067200, 750000000, by decide⟩] false []
    let daily : Cursor (List Instant) :=
      ofSource ([1704067200, 1704110400, 1704153600].map Instant.ofSecond) true []
    let session := [Request.iter, .operate 0 .next, .operate 0 .hasNext]
    let given (start : Cursor (List Instant)) :=
      (cursorsAfter (RecordedCursor.ofCursor start) [] session).map fun t =>
        (t.values, t.cursor.peeked)
    (given timed = [([newYear], some newYear)] ∧ ¬newYear.Precedes newYear ∧
      answers timed [] (session ++ [.operate 0 .next]) =
        [.made 0, .value (some newYear), .isLeft true, .value (some newYear)]) ∧
    given daily = [([day], some day)] ∧ ¬day.Precedes day ∧
      answers daily [] (session ++ [.operate 0 .next]) =
        [.made 0, .value (some day), .isLeft true, .value (some day)] := by
  decide +kernel

end Cursor

end Almanac
