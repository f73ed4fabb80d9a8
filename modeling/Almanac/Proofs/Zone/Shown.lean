import Almanac.Proofs.Calendar.Instant
import Almanac.Proofs.Zone.Placement

/-! Which instant a wall clock stands for. It is the earliest that shows the wall clock; failing that
the earliest that shows it moved on by an hour; and if there is none either, the wall clock is
refused: `place_eq_iff_placed`. -/

namespace Almanac

def ClockTime.hourLater (t : ClockTime) : ClockTime :=
  { t with dateTime := t.dateTime.addSeconds 3600 }

namespace Zone

def shownAt (z : Zone) (i : Instant) : ClockTime :=
  ⟨z.clockAt i.second, i.nanosecond, i.nanosecond_lt⟩

/-- The earliest instant at which the clock shows `wall`. -/
structure IsFirstShowing (z : Zone) (wall : ClockTime) (i : Instant) : Prop where
  shows : z.shownAt i = wall
  first : ∀ j, z.shownAt j = wall → ¬j.Before i

def Skips (z : Zone) (wall : ClockTime) : Prop :=
  ∀ i, z.shownAt i ≠ wall

/-- What placing a wall clock comes to. -/
inductive Placed (z : Zone) (wall : ClockTime) : Except ZoneError Instant → Prop
  | asShown {i : Instant} (h : z.IsFirstShowing wall i) : Placed z wall (.ok i)
  | hourLater {i : Instant} (hskips : z.Skips wall) (h : z.IsFirstShowing wall.hourLater i) :
    Placed z wall (.ok i)
  | skipped (hskips : z.Skips wall) (hlater : z.Skips wall.hourLater) :
    Placed z wall (.error (.skippedTime wall z.name))

variable {z : Zone} {wall : ClockTime} {i : Instant}

theorem shownAt_eq_iff :
    z.shownAt i = wall ↔ i.second ∈ z.readings wall.dateTime ∧ i.nanosecond = wall.nanosecond := by
  rw [mem_readings, shownAt, ClockTime.ext_iff]

theorem skips_iff : z.Skips wall ↔ z.readings wall.dateTime = [] := by
  rw [List.eq_nil_iff_forall_not_mem]
  constructor
  · intro h n hn
    exact h ⟨n, wall.nanosecond, wall.nanosecond_lt⟩ (shownAt_eq_iff.2 ⟨hn, rfl⟩)
  · intro h i hi
    exact h i.second (shownAt_eq_iff.1 hi).1

theorem isFirstShowing_head {n : Int} {ns : List Int} (h : z.readings wall.dateTime = n :: ns) :
    z.IsFirstShowing wall ⟨n, wall.nanosecond, wall.nanosecond_lt⟩ where
  shows := shownAt_eq_iff.2 ⟨h ▸ List.mem_cons_self, rfl⟩
  first := by
    intro j hj hbefore
    obtain ⟨hmem, hnano⟩ := shownAt_eq_iff.1 hj
    have hlt : j.second < n := (Instant.before_iff_of_nanosecond_eq hnano).1 hbefore
    have hasc : (n :: ns).Pairwise (· < ·) := h ▸ readings_ascending z wall.dateTime
    rw [h] at hmem
    rcases List.mem_cons.1 hmem with heq | hlater
    · omega
    · have := (List.pairwise_cons.1 hasc).1 j.second hlater
      omega

theorem IsFirstShowing.not_skips (h : z.IsFirstShowing wall i) : ¬z.Skips wall :=
  fun hskips => hskips i h.shows

theorem IsFirstShowing.unique {j : Instant} (hi : z.IsFirstShowing wall i)
    (hj : z.IsFirstShowing wall j) : i = j := by
  have hnano : i.nanosecond = j.nanosecond :=
    (shownAt_eq_iff.1 hi.shows).2.trans (shownAt_eq_iff.1 hj.shows).2.symm
  have hij := hj.first i hi.shows
  have hji := hi.first j hj.shows
  rw [Instant.before_iff_of_nanosecond_eq hnano] at hij
  rw [Instant.before_iff_of_nanosecond_eq hnano.symm] at hji
  exact Instant.ext (by omega) hnano

theorem IsFirstShowing.eq_iff {t : Instant} (h : z.IsFirstShowing (z.shownAt t) i) :
    i = t ↔ ∀ j, j.Before t → z.shownAt j ≠ z.shownAt t := by
  constructor
  · rintro rfl j hbefore hshows
    exact h.first j hshows hbefore
  · intro hfirst
    exact h.unique ⟨rfl, fun j hshows hbefore => hfirst j hbefore hshows⟩

theorem placed_place (z : Zone) (wall : ClockTime) : z.Placed wall (z.place wall) := by
  cases hnow : z.readings wall.dateTime with
  | cons n ns =>
    simp only [place, hnow]
    exact .asShown (isFirstShowing_head hnow)
  | nil =>
    have hskips : z.Skips wall := skips_iff.2 hnow
    cases hlater : z.readings wall.hourLater.dateTime with
    | cons n ns =>
      have hplace : z.place wall = .ok ⟨n, wall.nanosecond, wall.nanosecond_lt⟩ := by
        rw [ClockTime.hourLater] at hlater
        simp only [place, hnow, hlater]
      rw [hplace]
      exact .hourLater hskips (isFirstShowing_head hlater)
    | nil =>
      have hplace : z.place wall = .error (.skippedTime wall z.name) := by
        rw [ClockTime.hourLater] at hlater
        simp only [place, hnow, hlater]
      rw [hplace]
      exact .skipped hskips (skips_iff.2 hlater)

theorem Placed.unique {r r' : Except ZoneError Instant} (hr : z.Placed wall r)
    (hr' : z.Placed wall r') : r = r' := by
  cases hr with
  | asShown h =>
    cases hr' with
    | asShown h' => rw [h.unique h']
    | hourLater hskips => exact absurd hskips h.not_skips
    | skipped hskips => exact absurd hskips h.not_skips
  | hourLater hskips h =>
    cases hr' with
    | asShown h' => exact absurd hskips h'.not_skips
    | hourLater _ h' => rw [h.unique h']
    | skipped _ hlater => exact absurd hlater h.not_skips
  | skipped hskips hlater =>
    cases hr' with
    | asShown h' => exact absurd hskips h'.not_skips
    | hourLater _ h' => exact absurd hlater h'.not_skips
    | skipped => rfl

/-- A wall clock is placed at the earliest instant that shows it, or else at the earliest that shows
it an hour later, and is refused only if there is neither. So what a clock shows at an instant is
always placed, and at that very instant unless an earlier one shows the same. -/
theorem place_eq_iff_placed (z : Zone) :
    (∀ wall r, z.place wall = r ↔ z.Placed wall r) ∧
      ∀ t, ∃ i, z.place (z.shownAt t) = .ok i ∧ z.IsFirstShowing (z.shownAt t) i ∧
        (i = t ↔ ∀ j, j.Before t → z.shownAt j ≠ z.shownAt t) := by
  refine ⟨?placed, ?shown⟩
  case placed =>
    intro wall r
    constructor
    · rintro rfl
      exact placed_place z wall
    · intro hr
      exact (placed_place z wall).unique hr
  case shown =>
    intro t
    have hplaced := placed_place z (z.shownAt t)
    have hnot : ¬z.Skips (z.shownAt t) := fun hskips => hskips t rfl
    -- `t` itself shows the wall clock, which leaves the first of the three outcomes
    generalize z.place (z.shownAt t) = r at hplaced
    cases hplaced with
    | asShown h => exact ⟨_, rfl, h, h.eq_iff⟩
    | hourLater hskips => exact absurd hskips hnot
    | skipped hskips => exact absurd hskips hnot

end Zone

end Almanac
