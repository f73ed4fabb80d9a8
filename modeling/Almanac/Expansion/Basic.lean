import Almanac.Expansion.Occurrences
import Almanac.Supply

/-!
Following one rule from the start of its series. Period after period is worked out, and its
occurrences are held ready until they are asked for. Main statement: the supply instance, which says
that every rule comes to an end.
-/

namespace Almanac

namespace Expansion

/-- Where a rule has got to, apart from how much may still come. -/
structure Position where
  /-- The next period, unless the rule is at its end. -/
  counter? : Option Counter
  /-- How many occurrences the rule may still have, if it counts them. -/
  left? : Option Nat
  ready : List Int
deriving DecidableEq

def isPast (r : Rule) (n : Int) : Bool :=
  r.until?.any (· < n)

/-- The occurrences of a period that are delivered: those before the first one that is past the end
of the rule, from the start of the series on, and no more than are left. -/
def delivered (r : Rule) (start : Int) (left? : Option Nat) (ns : List Int) : List Int :=
  let due := (ns.takeWhile fun n => !isPast r n).filter fun n => decide (start ≤ n)
  match left? with
  | none => due
  | some left => due.take left

def period (r : Rule) (zone : Zone) (start : Int) (left? : Option Nat) (c : Counter) : Position :=
  let days := daySet r c.date
  let ns := occurrences r zone days (timeSet r c)
  let ready := delivered r start left? ns
  let left? := left?.map (· - ready.length)
  let isOver := ns.any (isPast r) || left? == some 0
  ⟨if isOver then none else nextPeriod r days.isEmpty c, left?, ready⟩

/-- The next occurrence. A period and an occurrence each use up one of the steps that are left. -/
def nextWithin (r : Rule) (zone : Zone) (start : Int) :
    Nat → Position → Option Int × Nat × Position
  | 0, p => (none, 0, p)
  | steps + 1, p =>
    match p.ready, p.counter? with
    | n :: ready, _ => (some n, steps, { p with ready })
    | [], none => (none, steps + 1, p)
    | [], some c => nextWithin r zone start steps (period r zone start p.left? c)

theorem nextWithin_steps_lt {r : Rule} {zone : Zone} {start n : Int} {steps steps' : Nat}
    {p p' : Position} (h : nextWithin r zone start steps p = (some n, steps', p')) :
    steps' < steps := by
  induction steps generalizing p with
  | zero => simp [nextWithin] at h
  | succ steps ih =>
    unfold nextWithin at h
    split at h
    · simp only [Prod.mk.injEq] at h
      omega
    · simp at h
    · exact Nat.lt_succ_of_lt (ih h)

theorem nextWithin_steps_le {r : Rule} {zone : Zone} {start : Int} {steps : Nat} {p : Position} :
    (nextWithin r zone start steps p).2.1 ≤ steps := by
  induction steps generalizing p with
  | zero => simp [nextWithin]
  | succ steps ih =>
    unfold nextWithin
    split
    · simp
    · simp
    · exact Nat.le_succ_of_le ih

end Expansion

structure Expansion where
  rule : Rule
  zone : Zone
  start : Int
  position : Expansion.Position
  /-- A bound on the periods and the occurrences that may still come. -/
  steps : Nat

namespace Expansion

/-- Twice the seconds from a day to the end of the last year, and those of two years more: every
period and every occurrence takes up a second of its own. -/
def stepBound (d : Date) : Nat :=
  2 * 86400 * ((Date.yearStart (lastYear + 1) - d.dayNumber).toNat + 800)

/-- A rule at its start. A rule that counts nothing, or that does not move, has no occurrences. -/
def ofRule (r : Rule) (zone : Zone) (start : Int) : Expansion :=
  let t := zone.clockAt start
  let counter? :=
    if r.count? = some 0 ∨ r.interval = 0 then none else some (Counter.ofDateTime t)
  ⟨r, zone, start, ⟨counter?, r.count?, []⟩, stepBound t.date⟩

def next (e : Expansion) : Option Int × Expansion :=
  let (n, steps, position) := nextWithin e.rule e.zone e.start e.steps e.position
  (n, { e with position, steps })

instance : Supply Expansion Int where
  next := next
  size := steps
  size_lt {e e' n} h := by
    unfold next at h
    split at h
    next n' steps position hn =>
      simp only [Prod.mk.injEq] at h
      obtain ⟨rfl, rfl⟩ := h
      exact nextWithin_steps_lt hn

theorem steps_next_le (e : Expansion) : (next e).2.steps ≤ e.steps :=
  nextWithin_steps_le

end Expansion

end Almanac
