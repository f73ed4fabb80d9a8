import Almanac.Zone.History
import Almanac.Zone.Placement

/-! Reading a clock and placing what it shows. A wall clock that is shown at some second can always
be placed, and its place is the earliest second that shows it: `place_clockAt`. -/

namespace Almanac.Zone

/-- Of the seconds at which the clock shows the same as at `n`, the earliest is `m`. -/
structure IsEarliest (z : Zone) (m n : Int) : Prop where
  shows : z.clockAt m = z.clockAt n
  le : ∀ k, z.clockAt k = z.clockAt n → m ≤ k

variable {z : Zone} {m n : Int}

theorem IsEarliest.le_self (h : z.IsEarliest m n) : m ≤ n :=
  h.le n rfl

theorem IsEarliest.eq_iff (h : z.IsEarliest m n) :
    m = n ↔ ∀ k, k < n → z.clockAt k ≠ z.clockAt n := by
  constructor
  · rintro rfl k hk hshows
    have := h.le k hshows
    omega
  · intro hfirst
    rcases Int.lt_or_eq_of_le h.le_self with hlt | heq
    · exact absurd h.shows (hfirst m hlt)
    · exact heq

theorem isEarliest_head {ns : List Int} (h : z.readings (z.clockAt n) = m :: ns) :
    z.IsEarliest m n where
  shows := by
    apply mem_readings.1
    rw [h]
    exact List.mem_cons_self
  le := by
    intro k hk
    have hmem : k ∈ m :: ns := h ▸ mem_readings.2 hk
    have hasc : (m :: ns).Pairwise (· < ·) := h ▸ readings_ascending z (z.clockAt n)
    rcases List.mem_cons.1 hmem with rfl | hlater
    · exact Int.le_refl k
    · exact Int.le_of_lt ((List.pairwise_cons.1 hasc).1 k hlater)

theorem place_clockAt (z : Zone) (n : Int) :
    ∃ m, z.place (z.clockAt n) = .ok (Instant.ofSecond m) ∧ z.IsEarliest m n := by
  cases hreadings : z.readings (z.clockAt n) with
  | nil =>
    have hself : n ∈ z.readings (z.clockAt n) := mem_readings.2 rfl
    rw [hreadings] at hself
    exact absurd hself List.not_mem_nil
  | cons m ns =>
    refine ⟨m, ?_, isEarliest_head hreadings⟩
    rw [place]
    simp only [hreadings]
    rfl

theorem zero_inDay : -86400 < (0 : Int) ∧ (0 : Int) < 86400 := by
  decide

/-- The clock of this zone goes one hour on at the start of 2018, and back at the start of 2019. -/
def saoTome : Zone where
  name := "Africa/Sao_Tome"
  clock := Clock.ofChanges ⟨1616, by decide⟩ [⟨-2713912016, ⟨-2205, by decide⟩⟩,
    ⟨-1830384000, ⟨0, zero_inDay⟩⟩, ⟨1514768400, ⟨3600, by decide⟩⟩,
    ⟨1546304400, ⟨0, zero_inDay⟩⟩]

theorem named?_saoTome : named? "Africa/Sao_Tome" = some saoTome := by
  decide +kernel

/-- The clock of this zone leaves out the 30th of December 2011. -/
def fakaofo : Zone where
  name := "Pacific/Fakaofo"
  clock := Clock.ofChanges ⟨-41096, by decide⟩ [⟨-2177411704, ⟨-39600, by decide⟩⟩,
    ⟨1325242800, ⟨46800, by decide⟩⟩]

theorem named?_fakaofo : named? "Pacific/Fakaofo" = some fakaofo := by
  decide +kernel

end Almanac.Zone
