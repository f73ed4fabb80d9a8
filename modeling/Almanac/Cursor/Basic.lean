import Almanac.Calendar.Moment
import Almanac.Supply

/-!
Cursors over the values of a recurrence. A cursor only moves forward; copies of it move on their own.
A `Cursor` draws on a supply of instants and hands out each instant that is later than all before it;
a `FixedCursor` draws on a list of values.
-/

namespace Almanac

class OccurrenceCursor (γ : Type) where
  /-- Whether a value is left. -/
  hasNext : γ → Bool × γ
  /-- The next value, if one is left. -/
  next : γ → Option Moment × γ
  /-- Discards the values before the first that the target does not come after, and counts them. -/
  advanceTo : Moment → γ → Nat × γ

structure Cursor (σ : Type) where
  source : σ
  /-- Whether every value is a whole day. -/
  wholeDay : Bool
  /-- The instants that are shown as whole days in any case. -/
  wholeDays : List Instant
  /-- A value that has been looked at and not handed out. -/
  peeked : Option Moment
  /-- The last instant drawn that was not dropped. -/
  last : Option Instant

namespace Cursor

variable {σ : Type}

def ofSource (source : σ) (wholeDay : Bool) (wholeDays : List Instant) : Cursor σ :=
  ⟨source, wholeDay, wholeDays, none, none⟩

/-- An instant as it is shown, to the second or to the day. -/
def shown (c : Cursor σ) (t : Instant) : Moment :=
  Moment.ofInstant t (c.wholeDay || c.wholeDays.contains t)

variable [Supply σ Instant]

/-- Draws the next instant that is later than the last one. -/
def pull (c : Cursor σ) : Option Moment × Cursor σ :=
  match _h : Supply.next c.source with
  | (none, source) => (none, { c with source })
  | (some t, source) =>
    if c.last.any (t ≤ ·) then pull { c with source }
    else (some (c.shown t), { c with source, last := some t })
termination_by Supply.size c.source
decreasing_by exact Supply.size_lt _h

def peek (c : Cursor σ) : Option Moment × Cursor σ :=
  match c.peeked with
  | some m => (some m, c)
  | none =>
    let (m, c) := c.pull
    (m, { c with peeked := m })

def next (c : Cursor σ) : Option Moment × Cursor σ :=
  match c.peeked with
  | some m => (some m, { c with peeked := none })
  | none => c.pull

def size (c : Cursor σ) : Nat :=
  Supply.size c.source + if c.peeked.isSome then 1 else 0

theorem size_pull_lt {c c' : Cursor σ} {m : Moment} (h : c.pull = (some m, c')) :
    Supply.size c'.source < Supply.size c.source ∧ c'.peeked = c.peeked := by
  fun_induction pull c with
  | case1 c source hs => simp at h
  | case2 c t source hs hl ih =>
    have := Supply.size_lt hs
    exact ⟨Nat.lt_trans (ih h).1 this, (ih h).2⟩
  | case3 c t source hs hl =>
    have := Supply.size_lt hs
    simp only [Prod.mk.injEq] at h
    rw [← h.2]
    exact ⟨this, rfl⟩

theorem size_peek_le {c c' : Cursor σ} {m : Moment} (h : c.peek = (some m, c')) :
    c'.size ≤ c.size ∧ c'.peeked.isSome := by
  unfold peek at h
  split at h
  · next hp =>
    simp only [Prod.mk.injEq] at h
    rw [← h.2]
    simp [hp]
  · next hp =>
    split at h
    next m' c'' hc =>
    simp only [Prod.mk.injEq] at h
    obtain ⟨rfl, rfl⟩ := h
    have := (size_pull_lt hc).1
    simp only [size, hp, Option.isSome_some, Option.isSome_none, if_true, Bool.false_eq_true,
      if_false, and_true]
    omega

def advance (target : Moment) (discarded : Nat) (c : Cursor σ) : Nat × Cursor σ :=
  match _h : c.peek with
  | (none, c') => (discarded, c')
  | (some m, c') =>
    if m.Precedes target then advance target (discarded + 1) { c' with peeked := none }
    else (discarded, c')
termination_by c.size
decreasing_by
  have h := size_peek_le _h
  have hp := h.2
  have hle := h.1
  simp only [size, hp, if_true, Option.isSome_none, Bool.false_eq_true, if_false] at hle ⊢
  omega

instance : OccurrenceCursor (Cursor σ) where
  hasNext c :=
    let (m, c) := c.peek
    (m.isSome, c)
  next := next
  advanceTo target c := advance target 0 c

end Cursor

structure FixedCursor where
  values : List Moment
deriving DecidableEq

namespace FixedCursor

def ofList (values : List Moment) : FixedCursor :=
  ⟨Moment.sorted values⟩

instance : OccurrenceCursor FixedCursor where
  hasNext c := (!c.values.isEmpty, c)
  next c := (c.values.head?, ⟨c.values.tail⟩)
  advanceTo target c :=
    let rest := c.values.dropWhile fun m => decide (m.Precedes target)
    (c.values.length - rest.length, ⟨rest⟩)

end FixedCursor

end Almanac
