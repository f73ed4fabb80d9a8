import Almanac.Proofs.Series.Stream
import Almanac.Series.Contribution

/-! Instants that a cursor drops. A cursor means to drop repeats and drops whatever is not later
than the last instant it kept; the two are the same as long as a recurrence set does not go back to
an instant that it has not given before: `yields_all_iff`. -/

namespace Almanac

namespace Cursor

variable {σ : Type} [Supply σ Instant]

/-- The instant is behind one of the values that the cursor hands out. -/
def Yields (c : Cursor σ) (t : Instant) : Prop :=
  ∃ k, (c.after k).next.1 = some (c.shown t) ∧ (c.after (k + 1)).last = some t

theorem yields_iff_mem_ahead [Supply.EndsForGood σ] {c : Cursor σ} (hpeek : c.peeked = none)
    {t : Instant} : c.Yields t ↔ t ∈ c.ahead := by
  constructor
  · rintro ⟨k, hgiven, hlast⟩
    rw [fst_next_after_of_none hpeek] at hgiven
    obtain ⟨i, hi, -⟩ := Option.map_eq_some_iff.1 hgiven
    have hsame : i = t := Option.some.inj ((last_after hpeek hi).symm.trans hlast)
    exact List.mem_of_getElem? (hsame ▸ hi)
  · intro ht
    obtain ⟨k, hk⟩ := List.mem_iff_getElem?.1 ht
    refine ⟨k, ?_, last_after hpeek hk⟩
    rw [fst_next_after_of_none hpeek, hk, Option.map_some]

end Cursor

theorem before_eq_of_not_mem {ns before before' after after' : List Int} {n : Int}
    (h : ns = before ++ n :: after) (h' : ns = before' ++ n :: after') (hn : n ∉ before)
    (hn' : n ∉ before') : before = before' := by
  induction before generalizing ns before' with
  | nil =>
    cases before' with
    | nil => rfl
    | cons b bs =>
      have hb : n = b := (List.cons.inj (h.symm.trans h')).1
      exact absurd (hb ▸ List.mem_cons_self) hn'
  | cons b bs ih =>
    cases before' with
    | nil =>
      have hb : b = n := (List.cons.inj (h.symm.trans h')).1
      exact absurd (hb ▸ List.mem_cons_self) hn
    | cons b' bs' =>
      obtain ⟨rfl, htail⟩ : b = b' ∧ bs ++ n :: after = bs' ++ n :: after' :=
        List.cons.inj (h.symm.trans h')
      rw [ih rfl htail (fun hmem => hn (List.mem_cons_of_mem b hmem))
        (fun hmem => hn' (List.mem_cons_of_mem b hmem))]

namespace Series

theorem yields_iff_mem_seconds {s : Series} {n : Int} :
    s.cursor.Yields (.ofSecond n) ↔ n ∈ s.seconds := by
  rw [Cursor.yields_iff_mem_ahead rfl, ahead_cursor,
    List.mem_map_of_injective Instant.ofSecond_injective]

theorem yields_iff (s : Series) (n : Int) :
    s.cursor.Yields (.ofSecond n) ↔
      ∃ before after, s.stream = before ++ n :: after ∧ ∀ m ∈ before, m < n := by
  rw [yields_iff_mem_seconds, seconds, Cursor.mem_rising_iff]
  exact and_iff_right fun l hl => by simp at hl

/-- A cursor hands out every instant of its set if and only if the set never goes back to an instant
that is new. -/
theorem yields_all_iff (s : Series) :
    (∀ n ∈ s.stream, s.cursor.Yields (.ofSecond n)) ↔
      ∀ before n after, s.stream = before ++ n :: after → n ∈ before ∨ ∀ m ∈ before, m < n := by
  constructor
  · intro hall before n after hsplit
    by_cases hn : n ∈ before
    · exact Or.inl hn
    · right
      have hmem : n ∈ s.stream := hsplit ▸ List.mem_append_right before List.mem_cons_self
      obtain ⟨before', after', hsplit', hearlier⟩ := (yields_iff s n).1 (hall n hmem)
      have hn' : n ∉ before' := fun hmem' => Int.lt_irrefl n (hearlier n hmem')
      rw [before_eq_of_not_mem hsplit hsplit' hn hn']
      exact hearlier
  · intro hnew n hn
    obtain ⟨before, after, hsplit, hfirst⟩ := List.eq_append_cons_of_mem hn
    refine (yields_iff s n).2 ⟨before, after, hsplit, ?_⟩
    exact (hnew before n after hsplit).resolve_left hfirst

/-- At the start of 2018 the clock of the zone goes one hour on, and a rule that steps by 45 minutes
comes to 01:45 UTC before it comes to 01:30. -/
theorem loses_instant_at_gap :
    ∃ governing compiled, Zone.named? "Africa/Sao_Tome" = some governing ∧
      compile "RRULE:FREQ=MINUTELY;INTERVAL=45;COUNT=4" (Moment.ofSecond 1514765700 false) governing
        true = .ok compiled ∧
      1514770200 ∈ compiled.series.stream ∧
      ¬compiled.series.cursor.Yields (.ofSecond 1514770200) := by
  let governing := (Zone.named? "Africa/Sao_Tome").get (by decide +kernel)
  let f : Frame := ⟨1514765700, false, governing⟩
  let rule := (Contribution.readRule f "FREQ=MINUTELY;INTERVAL=45;COUNT=4").toOption.get
    (by decide +kernel)
  -- asked for five instants, the set gives four: these are all of them
  obtain ⟨compiled, hcompile, hgiven⟩ : ∃ compiled,
      compile "RRULE:FREQ=MINUTELY;INTERVAL=45;COUNT=4" (Moment.ofSecond 1514765700 false) governing
        true = .ok compiled ∧
      Supply.draw 5 (SetRun.ofSet compiled.series.set) =
        [1514765700, 1514768400, 1514771100, 1514770200] :=
    ⟨⟨(ofFrame f).add (.rule rule), []⟩, by decide +kernel⟩
  have hstream : compiled.series.stream = [1514765700, 1514768400, 1514771100, 1514770200] :=
    stream_of_draw hgiven (by decide)
  refine ⟨governing, compiled, by decide +kernel, hcompile, ?_, ?_⟩
  · rw [hstream]
    decide
  · rw [yields_iff_mem_seconds, seconds, hstream]
    decide

end Series

end Almanac
