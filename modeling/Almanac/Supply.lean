import Almanac.Calendar.Instant

/-!
Supplies, from which things are taken one at a time. A supply comes to an end: its size falls with
everything that is taken, and that is what loops over it count down.
-/

namespace Almanac

/-- A finite sequence that is worked out step by step. -/
class Supply (σ : Type) (α : outParam Type) where
  next : σ → Option α × σ
  size : σ → Nat
  size_lt {s s' : σ} {a : α} : next s = (some a, s') → size s' < size s

namespace Supply

variable {σ α : Type} [Supply σ α]

def toList (s : σ) : List α :=
  match _h : next s with
  | (none, _) => []
  | (some a, s') => a :: toList s'
termination_by size s
decreasing_by exact size_lt _h

theorem toList_of_none {s s' : σ} (h : next s = (none, s')) : toList s = [] := by
  rw [toList]
  split
  · rfl
  · next h' => simp [h] at h'

theorem toList_of_some {s s' : σ} {a : α} (h : next s = (some a, s')) :
    toList s = a :: toList s' := by
  rw [toList]
  split
  · next h' => simp [h] at h'
  · next h' =>
    simp only [h, Prod.mk.injEq, Option.some.injEq] at h'
    rw [h'.1, h'.2]

end Supply

instance {α : Type} : Supply (List α) α where
  next
    | [] => (none, [])
    | a :: as => (some a, as)
  size := List.length
  size_lt {s s' a} h := by
    cases s with
    | nil => simp at h
    | cons b bs =>
      simp only [Prod.mk.injEq] at h
      simp [h.2]

/-- A supply of UTC seconds, taken as a supply of the instants at which they begin. -/
structure WholeSeconds (σ : Type) where
  seconds : σ

instance {σ : Type} [Supply σ Int] : Supply (WholeSeconds σ) Instant where
  next s :=
    let (n, seconds) := Supply.next s.seconds
    (n.map Instant.ofSecond, ⟨seconds⟩)
  size s := Supply.size s.seconds
  size_lt {s s' t} h := by
    obtain ⟨hn, rfl⟩ := Prod.mk.inj h
    obtain ⟨n, hn, -⟩ := Option.map_eq_some_iff.1 hn
    exact Supply.size_lt (Prod.ext hn rfl)

end Almanac
