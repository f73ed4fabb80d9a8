import Almanac.Expansion.Basic
import Almanac.RecurrenceSet
import Std.Data.TreeSet

/-!
Running through a recurrence set. Rules and single instants are merged by time; what the exclusions
take away is left out. An instant that comes from two sources may be delivered twice, and each
exclusion rule is followed only as far as the instants that are looked at.
-/

namespace Almanac

/-- The exclusion rules as far as they have been followed, and all instants taken away so far. -/
structure Exclusion where
  rules : List Expansion
  instants : Std.TreeSet Int

namespace Exclusion

/-- Follows a rule until it has given an instant later than `n`, or is at its end. What it gives is
added to the set. -/
def follow (n : Int) (instants : Std.TreeSet Int) (e : Expansion) : Expansion × Std.TreeSet Int :=
  match _h : e.next with
  | (none, e') => (e', instants)
  | (some m, e') =>
    if n < m then (e', instants.insert m) else follow n (instants.insert m) e'
termination_by e.steps
decreasing_by exact Supply.size_lt (σ := Expansion) _h

def followAll (n : Int) (instants : Std.TreeSet Int) :
    List Expansion → List Expansion × Std.TreeSet Int
  | [] => ([], instants)
  | e :: es =>
    let (e, instants) := follow n instants e
    let (es, instants) := followAll n instants es
    (e :: es, instants)

def excludes (x : Exclusion) (n : Int) : Bool × Exclusion :=
  let (rules, instants) := followAll n x.instants x.rules
  (instants.contains n, ⟨rules, instants⟩)

end Exclusion

/-- A rule and its next occurrence, if that has been worked out already. -/
structure Strand where
  expansion : Expansion
  head? : Option Int

namespace Strand

def size (s : Strand) : Nat :=
  s.expansion.steps + if s.head?.isSome then 1 else 0

def totalSize : List Strand → Nat
  | [] => 0
  | s :: ss => s.size + totalSize ss

def nextKept (x : Exclusion) (e : Expansion) : Option Int × Expansion × Exclusion :=
  match _h : e.next with
  | (none, e') => (none, e', x)
  | (some n, e') =>
    match x.excludes n with
    | (false, x) => (some n, e', x)
    | (true, x) => nextKept x e'
termination_by e.steps
decreasing_by exact Supply.size_lt (σ := Expansion) _h

def fill (x : Exclusion) (s : Strand) : Strand × Exclusion :=
  match s.head? with
  | some _ => (s, x)
  | none =>
    let (head?, expansion, x) := nextKept x s.expansion
    (⟨expansion, head?⟩, x)

def fillAll (x : Exclusion) : List Strand → List Strand × Exclusion
  | [] => ([], x)
  | s :: ss =>
    let (s, x) := fill x s
    let (ss, x) := fillAll x ss
    (s :: ss, x)

def takeEarliest : List Strand → Option (Int × List Strand)
  | [] => none
  | s :: ss =>
    match s.head?, takeEarliest ss with
    | none, rest => rest.map fun (n, ss) => (n, s :: ss)
    | some n, none => some (n, { s with head? := none } :: ss)
    | some n, some (m, ss') =>
      if m ≤ n then some (m, s :: ss') else some (n, { s with head? := none } :: ss)

end Strand

/-- The first date that is not excluded is put in front; those before it are dropped. -/
def Exclusion.dropExcluded (x : Exclusion) : List Int → List Int × Exclusion
  | [] => ([], x)
  | n :: ns =>
    match x.excludes n with
    | (false, x) => (n :: ns, x)
    | (true, x) => x.dropExcluded ns

structure SetRun where
  strands : List Strand
  /-- The single instants to come, in order. -/
  dates : List Int
  exclusion : Exclusion

namespace SetRun

def ofSet (s : RecurrenceSet) : SetRun where
  strands := s.rules.map fun r => ⟨Expansion.ofRule r s.zone s.start, none⟩
  dates := s.dates.mergeSort fun a b => decide (a ≤ b)
  exclusion :=
    ⟨s.exclusionRules.map fun r => Expansion.ofRule r s.zone s.start,
      Std.TreeSet.ofList s.exclusionDates⟩

/-- The next instant. A single instant goes before an occurrence of a rule at the same time. -/
def next (run : SetRun) : Option Int × SetRun :=
  let (strands, x) := Strand.fillAll run.exclusion run.strands
  let (dates, x) := x.dropExcluded run.dates
  match Strand.takeEarliest strands, dates with
  | none, [] => (none, ⟨strands, [], x⟩)
  | none, n :: ns => (some n, ⟨strands, ns, x⟩)
  | some (n, rest), [] => (some n, ⟨rest, [], x⟩)
  | some (n, rest), d :: ds =>
    if d ≤ n then (some d, ⟨strands, ds, x⟩) else (some n, ⟨rest, d :: ds, x⟩)

def size (run : SetRun) : Nat :=
  Strand.totalSize run.strands + run.dates.length

end SetRun

namespace Strand

theorem steps_nextKept (x : Exclusion) (e : Expansion) :
    (nextKept x e).2.1.steps + (if (nextKept x e).1.isSome then 1 else 0) ≤ e.steps := by
  fun_induction nextKept x e with
  | case1 x e e' h => simpa [h] using Expansion.steps_next_le e
  | case2 x e n e' h x' hx =>
    have := Supply.size_lt (σ := Expansion) h
    simp only [Option.isSome_some, if_true]
    exact this
  | case3 x e n e' h x' hx ih =>
    have := Supply.size_lt (σ := Expansion) h
    exact Nat.le_trans ih (Nat.le_of_lt this)

theorem size_fill_le (x : Exclusion) (s : Strand) : (fill x s).1.size ≤ s.size := by
  unfold fill
  split
  · simp
  · next h =>
    have := steps_nextKept x s.expansion
    simpa [size, h] using this

theorem size_fillAll_le (x : Exclusion) (ss : List Strand) :
    totalSize (fillAll x ss).1 ≤ totalSize ss := by
  induction ss generalizing x with
  | nil => simp [fillAll]
  | cons s ss ih =>
    have h₁ := size_fill_le x s
    have h₂ := ih (fill x s).2
    simp only [fillAll, totalSize]
    omega

theorem size_takeEarliest {ss rest : List Strand} {n : Int} (h : takeEarliest ss = some (n, rest)) :
    totalSize rest + 1 = totalSize ss := by
  induction ss generalizing n rest with
  | nil => simp [takeEarliest] at h
  | cons s ss ih =>
    unfold takeEarliest at h
    split at h
    · next hs =>
      obtain ⟨⟨m, ss'⟩, hr, he⟩ := Option.map_eq_some_iff.1 h
      simp only [Prod.mk.injEq] at he
      obtain ⟨rfl, rfl⟩ := he
      have := ih hr
      simp only [totalSize]
      omega
    · next m hs ht =>
      simp only [Option.some.injEq, Prod.mk.injEq] at h
      obtain ⟨rfl, rfl⟩ := h
      simp only [totalSize, size, hs, Option.isSome_some, Option.isSome_none, if_true,
        Bool.false_eq_true, if_false]
      omega
    · next m k ss' hs ht =>
      have := ih ht
      split at h
      · simp only [Option.some.injEq, Prod.mk.injEq] at h
        obtain ⟨rfl, rfl⟩ := h
        simp only [totalSize]
        omega
      · simp only [Option.some.injEq, Prod.mk.injEq] at h
        obtain ⟨rfl, rfl⟩ := h
        simp only [totalSize, size, hs, Option.isSome_some, Option.isSome_none, if_true,
          Bool.false_eq_true, if_false]
        omega

end Strand

namespace Exclusion

theorem length_dropExcluded_le (x : Exclusion) (ns : List Int) :
    (x.dropExcluded ns).1.length ≤ ns.length := by
  induction ns generalizing x with
  | nil => simp [dropExcluded]
  | cons n ns ih =>
    unfold dropExcluded
    split
    · simp
    · exact Nat.le_succ_of_le (ih _)

end Exclusion

instance : Supply SetRun Int where
  next := SetRun.next
  size := SetRun.size
  size_lt {run run' n} h := by
    have h₁ := Strand.size_fillAll_le run.exclusion run.strands
    have h₂ := Exclusion.length_dropExcluded_le
      (Strand.fillAll run.exclusion run.strands).2 run.dates
    unfold SetRun.next at h
    dsimp only at h
    split at h
    · simp at h
    · next ns he hd =>
      simp only [Prod.mk.injEq] at h
      rw [← h.2]
      rw [hd] at h₂
      simp only [SetRun.size, List.length_cons] at *
      omega
    · next m rest he hd =>
      simp only [Prod.mk.injEq] at h
      rw [← h.2]
      have := Strand.size_takeEarliest he
      simp only [SetRun.size, List.length_nil] at *
      omega
    · next m rest d ds he hd =>
      have := Strand.size_takeEarliest he
      rw [hd] at h₂
      split at h
      · simp only [Prod.mk.injEq] at h
        rw [← h.2]
        simp only [SetRun.size, List.length_cons] at *
        omega
      · simp only [Prod.mk.injEq] at h
        rw [← h.2]
        simp only [SetRun.size, List.length_cons] at *
        omega

end Almanac
