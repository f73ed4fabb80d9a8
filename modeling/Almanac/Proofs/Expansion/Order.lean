import Almanac.Proofs.Expansion.Bounds
import Almanac.Proofs.Expansion.Period

/-! Rules on a clock that places wall times in order. What has been given is passed by the wall
second at which the next period begins, and working out a period keeps it so. Main statement:
`pairwise_ofRule`, by which such a rule gives its instants in order. -/

namespace Almanac.Expansion

open Supply (toList)

variable {r : Rule} {zone : Zone} {start n : Int} {before : List Int}

/-- Nothing that is placed from a wall second on comes before an instant. -/
def Passed (zone : Zone) (n wall : Int) : Prop :=
  ∀ (d : Date) (t m : Int), (0 ≤ t ∧ t < 86400) → wall ≤ 86400 * d.dayNumber + t →
    instantOf? zone d t = some m → n ≤ m

theorem Passed.mono {wall wall' : Int} (h : Passed zone n wall) (hle : wall ≤ wall') :
    Passed zone n wall' :=
  fun d t m hday hwall hm => h d t m hday (Int.le_trans hle hwall) hm

theorem passed_of_instantOf {d : Date} {t wall : Int} (hzone : PlacesInOrder zone)
    (hday : 0 ≤ t ∧ t < 86400) (hwall : 86400 * d.dayNumber + t ≤ wall)
    (hn : instantOf? zone d t = some n) : Passed zone n wall :=
  fun d' t' m hday' hwall' hm =>
    hzone d d' t t' n m hday hday' (Int.le_trans hwall hwall') hn hm

/-- The period at a counter has been reached after some instants were given. -/
structure Reached (r : Rule) (zone : Zone) (before : List Int) (c : Counter) : Prop where
  moves : 0 < r.interval
  inDay : c.InDay
  passed : ∀ n ∈ before, Passed zone n (periodStart r c)

/-- What is held ready follows the instants that were given, and the next period has been reached
after all of them. -/
structure Ahead (r : Rule) (zone : Zone) (before : List Int) (p : Position) : Prop where
  ascending : (before ++ p.ready).Pairwise (· ≤ ·)
  reached : ∀ c, p.counter? = some c → Reached r zone (before ++ p.ready) c

theorem delivered_sublist (left? : Option Nat) (ns : List Int) :
    (delivered r start left? ns).Sublist ns := by
  have hdue : ((ns.takeWhile fun n => !isPast r n).filter fun n => decide (start ≤ n)).Sublist ns :=
    List.filter_sublist.trans (List.takeWhile_sublist _)
  unfold delivered
  cases left? with
  | none => exact hdue
  | some left => exact (List.take_sublist left _).trans hdue

theorem nextPeriod_of_period {left? : Option Nat} {c c' : Counter}
    (h : (period r zone start left? c).counter? = some c') :
    nextPeriod r (daySet r c.date).isEmpty c = some c' := by
  unfold period at h
  dsimp only at h
  split at h
  · simp at h
  · exact h

theorem Reached.period {left? : Option Nat} {c : Counter} (hzone : PlacesInOrder zone)
    (hr : TimesInOrder r.hours r.minutes r.seconds) (hbefore : before.Pairwise (· ≤ ·))
    (h : Reached r zone before c) : Ahead r zone before (period r zone start left? c) := by
  have htimes := timesOfPeriod_timeSet hr h.inDay
  have hready : (Expansion.period r zone start left? c).ready.Sublist
      (occurrences r zone (daySet r c.date) (timeSet r c)) := delivered_sublist left? _
  constructor
  · refine List.pairwise_append.2 ⟨hbefore, (pairwise_occurrences hzone hr h.inDay).sublist hready,
      fun n hn m hm => ?_⟩
    obtain ⟨d, hd, t, ht, hplaced⟩ := exists_of_mem_occurrences (hready.subset hm)
    exact h.passed n hn d t m (htimes.ofDay t ht) (htimes.inPeriod t ht d hd).1 hplaced
  · intro c' hc'
    obtain ⟨hle, hinDay⟩ := periodEnd_le h.moves h.inDay (nextPeriod_of_period hc')
    refine ⟨h.moves, hinDay, fun n hn => ?_⟩
    rcases List.mem_append.1 hn with hn | hn
    · -- the period at hand begins before it ends
      refine (h.passed n hn).mono (Int.le_trans ?_ hle)
      unfold periodEnd
      split <;> omega
    · obtain ⟨d, hd, t, ht, hplaced⟩ := exists_of_mem_occurrences (hready.subset hn)
      have hwall := (htimes.inPeriod t ht d hd).2
      exact passed_of_instantOf hzone (htimes.ofDay t ht) (by omega) hplaced

theorem Ahead.nextWithin {steps steps' : Nat} {p p' : Position} (hzone : PlacesInOrder zone)
    (hr : TimesInOrder r.hours r.minutes r.seconds) (h : Ahead r zone before p)
    (hn : nextWithin r zone start steps p = (some n, steps', p')) :
    Ahead r zone (before ++ [n]) p' := by
  induction steps generalizing p with
  | zero => simp [Expansion.nextWithin] at hn
  | succ steps ih =>
    unfold Expansion.nextWithin at hn
    split at hn
    · next _ m ready hready =>
      simp only [Prod.mk.injEq, Option.some.injEq] at hn
      obtain ⟨rfl, -, rfl⟩ := hn
      have hlist : before ++ p.ready = before ++ [m] ++ ready := by
        rw [hready, List.append_assoc, List.singleton_append]
      exact ⟨hlist ▸ h.ascending, fun c hc => hlist ▸ h.reached c hc⟩
    · simp at hn
    · next c hready hc =>
      have hlist : before ++ p.ready = before := by rw [hready, List.append_nil]
      have hreached : Reached r zone before c := hlist ▸ h.reached c hc
      exact ih (hreached.period hzone hr (hlist ▸ h.ascending)) hn

theorem pairwise_toList {e : Expansion} (hzone : PlacesInOrder e.zone)
    (hr : TimesInOrder e.rule.hours e.rule.minutes e.rule.seconds)
    (h : Ahead e.rule e.zone before e.position) : (before ++ toList e).Pairwise (· ≤ ·) := by
  induction e using Supply.induction generalizing before with
  | ended e e' hnext =>
    rw [Supply.toList_of_none hnext, List.append_nil]
    exact (List.pairwise_append.1 h.ascending).1
  | given e n e' hnext ih =>
    obtain ⟨steps, position, hw, rfl⟩ := nextWithin_of_next hnext
    rw [Supply.toList_of_some hnext, List.append_cons]
    exact ih hzone hr (h.nextWithin hzone hr hw)

theorem pairwise_ofRule (hzone : PlacesInOrder zone)
    (hr : TimesInOrder r.hours r.minutes r.seconds) (start : Int) :
    (toList (ofRule r zone start)).Pairwise (· ≤ ·) := by
  have hahead : Ahead r zone [] (ofRule r zone start).position := by
    refine ⟨List.Pairwise.nil, fun c hc => ?_⟩
    unfold ofRule at hc
    dsimp only at hc
    split at hc
    · simp at hc
    · next hmoves =>
      obtain rfl := Option.some.inj hc
      exact ⟨by omega, Counter.inDay_ofDateTime _, fun n hn => absurd hn List.not_mem_nil⟩
  rw [← List.nil_append (toList _)]
  exact pairwise_toList hzone hr hahead

end Almanac.Expansion
