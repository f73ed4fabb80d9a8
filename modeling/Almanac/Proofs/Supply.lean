import Almanac.Supply

/-! Supplies as lists. What a supply still has to give determines what it gives next, and what it
gives in a number of steps. -/

namespace Almanac.Supply

/-- A supply that has come to its end gives nothing afterwards. -/
class EndsForGood (σ : Type) {α : Type} [Supply σ α] : Prop where
  toList_of_ended {s s' : σ} : next s = (none, s') → toList s' = []

variable {σ α : Type} [Supply σ α]

theorem induction {motive : σ → Prop}
    (ended : ∀ s s', next s = (none, s') → motive s)
    (given : ∀ s a s', next s = (some a, s') → motive s' → motive s) (s : σ) : motive s := by
  obtain ⟨k, hk⟩ : ∃ k, size s = k := ⟨_, rfl⟩
  induction k using Nat.strongRecOn generalizing s with
  | ind k ih =>
    rcases h : next s with ⟨a?, s'⟩
    cases a? with
    | none => exact ended s s' h
    | some a => exact given s a s' h (ih (size s') (hk ▸ size_lt h) s' rfl)

theorem fst_next (s : σ) : (next s).1 = (toList s).head? := by
  rcases h : next s with ⟨a?, s'⟩
  cases a? with
  | none => rw [toList_of_none h, List.head?_nil]
  | some a => rw [toList_of_some h, List.head?_cons]

/-- The first things a supply gives, `k` of them unless it ends before. -/
def draw : Nat → σ → List α
  | 0, _ => []
  | k + 1, s =>
    match next s with
    | (none, _) => []
    | (some a, s') => a :: draw k s'

theorem draw_eq_take (k : Nat) (s : σ) : draw k s = (toList s).take k := by
  induction k generalizing s with
  | zero => rw [List.take_zero, draw]
  | succ k ih =>
    rcases h : next s with ⟨a?, s'⟩
    cases a? with
    | none => simp only [draw, h, toList_of_none h, List.take_nil]
    | some a => simp only [draw, h, toList_of_some h, List.take_succ_cons, ih]

theorem toList_eq_draw {k : Nat} {s : σ} (h : (draw k s).length < k) : toList s = draw k s := by
  rw [draw_eq_take, List.length_take] at h
  rw [draw_eq_take, List.take_of_length_le (by omega)]

section WholeSeconds

variable {σ : Type} [Supply σ Int] {s s' : WholeSeconds σ}

theorem next_seconds_of_none (h : next s = (none, s')) :
    next s.seconds = (none, s'.seconds) := by
  obtain ⟨hn, rfl⟩ := Prod.mk.inj h
  exact Prod.ext (Option.map_eq_none_iff.1 hn) rfl

theorem next_seconds_of_some {t : Instant} (h : next s = (some t, s')) :
    ∃ n, t = Instant.ofSecond n ∧ next s.seconds = (some n, s'.seconds) := by
  obtain ⟨ht, rfl⟩ := Prod.mk.inj h
  obtain ⟨n, hn, hsecond⟩ := Option.map_eq_some_iff.1 ht
  exact ⟨n, hsecond.symm, Prod.ext hn rfl⟩

theorem toList_wholeSeconds (s : WholeSeconds σ) :
    toList s = (toList s.seconds).map Instant.ofSecond := by
  induction s using induction with
  | ended s s' hnext =>
    rw [toList_of_none hnext, toList_of_none (next_seconds_of_none hnext), List.map_nil]
  | given s t s' hnext ih =>
    obtain ⟨n, rfl, hgiven⟩ := next_seconds_of_some hnext
    rw [toList_of_some hnext, toList_of_some hgiven, ih, List.map_cons]

instance [EndsForGood σ] : EndsForGood (WholeSeconds σ) where
  toList_of_ended h := by
    rw [toList_wholeSeconds, EndsForGood.toList_of_ended (next_seconds_of_none h), List.map_nil]

end WholeSeconds

end Almanac.Supply
