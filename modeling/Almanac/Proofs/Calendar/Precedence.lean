import Almanac.Proofs.Calendar.Order
import Mathlib.Order.Defs.Unbundled

/-! The two orders of values. `compare` tells any two values apart, `Precedes` sees the timeline
alone. They differ at midnight only, between a whole day and the second that it stands at, so that
each of them can follow the other: `orders_compatible`. -/

namespace Almanac.Moment

variable {a b c : Moment}

instance : Std.TransOrd Moment :=
  inferInstanceAs (Std.TransCmp (compareLex (compareOn second) (compareOn rank)))

instance : IsLinearOrder Moment (· ≤ ·) where
  refl := le_refl
  trans _ _ _ := le_trans
  antisymm _ _ := le_antisymm
  total := le_total

instance : IsStrictWeakOrder Moment Precedes where
  irrefl _ := Int.lt_irrefl _
  trans _ _ _ := Int.lt_trans
  incomp_trans a b c := by
    unfold Precedes
    omega

theorem second_eq_and_rank_lt_iff :
    a.second = b.second ∧ a.rank < b.rank ↔
      ∃ d, a = wholeDay d ∧ b = timed (DateTime.midnight d) := by
  constructor
  · rintro ⟨hsecond, hrank⟩
    have htimeline : a.timeline = b.timeline := DateTime.toSeconds_inj hsecond
    cases a with
    | wholeDay d =>
      cases b with
      | wholeDay e => exact absurd hrank (Nat.lt_irrefl 0)
      | timed t => exact ⟨d, rfl, congrArg timed htimeline.symm⟩
    | timed t => cases b <;> simp [rank] at hrank
  · rintro ⟨d, rfl, rfl⟩
    exact ⟨rfl, Nat.zero_lt_one⟩

theorem compare_eq_lt_iff_precedes_or :
    compare a b = .lt ↔
      a.Precedes b ∨ ∃ d, a = wholeDay d ∧ b = timed (DateTime.midnight d) := by
  rw [compare_eq_lt_iff, second_eq_and_rank_lt_iff, Precedes]

theorem Precedes.compare_eq_lt (h : a.Precedes b) : compare a b = .lt :=
  compare_eq_lt_iff_precedes_or.2 (Or.inl h)

theorem le_of_compare_eq_lt (h : compare a b = .lt) : a ≤ b := by
  show (compare a b).isLE = true
  rw [h, Ordering.isLE_lt]

theorem precedes_of_precedes_of_le (h : a.Precedes b) (h' : b ≤ c) : a.Precedes c := by
  rw [le_iff] at h'
  unfold Precedes at *
  omega

theorem precedes_of_le_of_precedes (h : a ≤ b) (h' : b.Precedes c) : a.Precedes c := by
  rw [le_iff] at h
  unfold Precedes at *
  omega

/-- `compare` is a total order that tells any two values apart, and `Precedes` a strict weak order that
it refines. Precedence is kept by steps of the finer order on either side, and all that the finer
order adds to it is that a whole day comes before the second at its midnight. -/
theorem orders_compatible :
    Std.TransOrd Moment ∧ IsLinearOrder Moment (· ≤ ·) ∧
    (∀ a b : Moment, compare a b = .eq ↔ a = b) ∧
    IsStrictWeakOrder Moment Precedes ∧
    (∀ a b : Moment, a.Precedes b → compare a b = .lt) ∧
    (∀ a b : Moment, compare a b = .lt → ¬b.Precedes a) ∧
    (∀ a b c : Moment, a.Precedes b ∧ b ≤ c ∨ a ≤ b ∧ b.Precedes c → a.Precedes c) ∧
    ∀ a b : Moment, compare a b = .lt ∧ ¬a.Precedes b ∧ ¬b.Precedes a ↔
      ∃ d, a = wholeDay d ∧ b = timed (DateTime.midnight d) := by
  refine ⟨inferInstance, inferInstance, fun _ _ => compare_eq_eq_iff, inferInstance,
    fun _ _ => Precedes.compare_eq_lt, fun a b hlt => ?after, fun a b c h => ?through,
    fun a b => ?tied⟩
  case after => exact not_precedes_of_le (le_of_compare_eq_lt hlt)
  case through =>
    rcases h with ⟨hab, hbc⟩ | ⟨hab, hbc⟩
    · exact precedes_of_precedes_of_le hab hbc
    · exact precedes_of_le_of_precedes hab hbc
  case tied =>
    rw [compare_eq_lt_iff_precedes_or]
    constructor
    · rintro ⟨hprecedes | hmidnight, hnot, -⟩
      · exact absurd hprecedes hnot
      · exact hmidnight
    · rintro ⟨d, rfl, rfl⟩
      exact ⟨Or.inr ⟨d, rfl, rfl⟩, Int.lt_irrefl _, Int.lt_irrefl _⟩

/-- A day, its midnight, and nine o'clock on it. -/
theorem orders_compatible_at_midnight :
    let second : Date := ⟨2024, 1, 2, by decide⟩
    let midnight := timed (DateTime.midnight second)
    let nine := ofSecond 1704186000 false
    wholeDay second ≤ midnight ∧ midnight.Precedes nine ∧ (wholeDay second).Precedes nine ∧
      compare (wholeDay second) midnight = .lt ∧ ¬(wholeDay second).Precedes midnight ∧
      ¬midnight.Precedes (wholeDay second) := by
  intro second midnight nine
  obtain ⟨-, -, -, -, -, -, hthrough, htied⟩ := orders_compatible
  have hle : wholeDay second ≤ midnight := by decide
  have hprecedes : midnight.Precedes nine := by decide
  exact ⟨hle, hprecedes, hthrough _ _ _ (Or.inr ⟨hle, hprecedes⟩),
    (htied _ _).2 ⟨second, rfl, rfl⟩⟩

end Almanac.Moment
