import Almanac.Calendar.Instant
import Mathlib.Data.Int.Order.Basic
import Mathlib.Logic.ExistsUnique
import Mathlib.Order.MinMax

/-! The order of instants: the second counts first, and then the nanosecond. It is the order of the
numbers of nanoseconds since the start of 1970, which match the instants one for one. -/

namespace Almanac.Instant

def Before (a b : Instant) : Prop :=
  a.second < b.second ∨ a.second = b.second ∧ a.nanosecond < b.nanosecond

instance (a b : Instant) : Decidable (a.Before b) :=
  inferInstanceAs (Decidable (_ ∨ _))

theorem before_iff_of_nanosecond_eq {a b : Instant} (h : a.nanosecond = b.nanosecond) :
    a.Before b ↔ a.second < b.second := by
  unfold Before
  omega

theorem sinceEpoch_lt_iff {a b : Instant} : a.sinceEpoch < b.sinceEpoch ↔ a.Before b := by
  have ha := a.nanosecond_lt
  have hb := b.nanosecond_lt
  unfold sinceEpoch Before
  omega

theorem sinceEpoch_inj {a b : Instant} (h : a.sinceEpoch = b.sinceEpoch) : a = b := by
  have ha := a.nanosecond_lt
  have hb := b.nanosecond_lt
  unfold sinceEpoch at h
  ext <;> omega

instance : LinearOrder Instant :=
  LinearOrder.lift' sinceEpoch fun _ _ => sinceEpoch_inj

theorem lt_iff {a b : Instant} :
    a < b ↔ a.second < b.second ∨ a.second = b.second ∧ a.nanosecond < b.nanosecond :=
  sinceEpoch_lt_iff

theorem second_le {a b : Instant} (h : a ≤ b) : a.second ≤ b.second := by
  rcases h.lt_or_eq with hlt | rfl
  · have := lt_iff.1 hlt
    omega
  · exact le_rfl

theorem ofSecond_lt_iff {m n : Int} : ofSecond m < ofSecond n ↔ m < n :=
  lt_iff.trans (or_iff_left fun h => absurd h.2 (Nat.lt_irrefl 0))

theorem ofSecond_le_iff {m n : Int} : ofSecond m ≤ ofSecond n ↔ m ≤ n := by
  rw [← not_lt, ofSecond_lt_iff, not_lt]

theorem ofSecond_injective : Function.Injective ofSecond :=
  fun _ _ h => congrArg second h

theorem sinceEpoch_ofNanoseconds (second n : Int) :
    (ofNanoseconds second n).sinceEpoch = 1000000000 * second + n := by
  simp only [sinceEpoch, ofNanoseconds]
  omega

theorem existsUnique_sinceEpoch (n : Int) : ∃! t : Instant, t.sinceEpoch = n := by
  have hn : (ofNanoseconds 0 n).sinceEpoch = n := by
    rw [sinceEpoch_ofNanoseconds]
    omega
  exact ⟨_, hn, fun t ht => sinceEpoch_inj (ht.trans hn.symm)⟩

theorem sinceEpoch_ofSecond_le_iff {n : Int} {t : Instant} :
    (ofSecond n).sinceEpoch ≤ t.sinceEpoch ↔ n ≤ t.second := by
  rw [← Int.not_lt, sinceEpoch_lt_iff]
  simp only [Before, ofSecond]
  omega

end Almanac.Instant
