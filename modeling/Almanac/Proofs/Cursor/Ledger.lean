import Almanac.Proofs.Cursor.Fixed
import Almanac.Proofs.Cursor.Session
import Mathlib.Data.List.Basic

/-! A cursor over a list loses nothing and makes nothing up. A `Ledger` is such a cursor with what it
has handed out and what it has discarded. Whatever the cursor is asked, the two entries and what is
still pending make up the values that it was given: `entries_perm`. -/

namespace Almanac

def Answer.values : Answer → List Moment
  | value value? => value?.toList
  | _ => []

/-- Whether an operation takes a pending value away without handing it out. -/
def Operation.discards : Operation → Moment → Bool
  | advanceTo target, m => decide (m.Precedes target)
  | _, _ => false

namespace Moment

theorem inOrder_of_pairwise_le {ms : List Moment} (h : ms.Pairwise (· ≤ ·)) : InOrder ms :=
  h.imp not_precedes_of_le

end Moment

section Lists

variable {α : Type} [DecidableEq α]

theorem diff_filter_not (p : α → Bool) (as : List α) :
    as.diff (as.filter fun a => !p a) = as.filter p := by
  induction as with
  | nil => rfl
  | cons a as ih =>
    cases ha : p a with
    | true =>
      have hnot : a ∉ as.filter fun a => !p a := by simp [ha]
      rw [List.filter_cons_of_neg (by simp [ha]), List.cons_diff_of_not_mem hnot, ih,
        List.filter_cons_of_pos ha]
    | false =>
      rw [List.filter_cons_of_pos (by simp [ha]), List.diff_cons, List.erase_cons_head, ih,
        List.filter_cons_of_neg (by simp [ha])]

end Lists

theorem FixedCursor.values_run {c : FixedCursor} (h : Moment.InOrder c.values)
    (operation : Operation) :
    (operation.run c).1.values ++ (operation.run c).2.values =
      c.values.filter fun m => !operation.discards m := by
  have hkept : (c.values.filter fun _ => true) = c.values := List.filter_true c.values
  cases operation with
  | hasNext => exact hkept.symm
  | next =>
    show c.values.head?.toList ++ c.values.tail = _
    refine Eq.trans ?_ hkept.symm
    cases c.values with
    | nil => rfl
    | cons m ms => rfl
  | advanceTo target =>
    show (c.values.dropWhile fun m => decide (m.Precedes target)) = _
    rw [h.dropWhile_eq_filter]
    simp only [decide_not, Operation.discards]

def FixedCursor.answersFor (vs : List Moment) (requests : List Request) : List Answer :=
  answers (ofList vs) [ofList vs] requests

structure Ledger where
  handedOut : List Moment
  discarded : List Moment
  cursor : FixedCursor
deriving DecidableEq

namespace Ledger

def ofList (vs : List Moment) : Ledger :=
  ⟨[], [], FixedCursor.ofList vs⟩

/-- Enters what an operation hands out, and what was pending and is neither handed out nor pending
any more. -/
def enter (l : Ledger) (operation : Operation) : Ledger :=
  let (answer, cursor) := operation.run l.cursor
  { handedOut := l.handedOut ++ answer.values
    discarded := l.discarded ++ l.cursor.values.diff (answer.values ++ cursor.values)
    cursor }

structure Balanced (vs : List Moment) (l : Ledger) : Prop where
  perm : (l.handedOut ++ l.discarded ++ l.cursor.values).Perm vs
  ascending : (l.handedOut ++ l.cursor.values).Pairwise (· ≤ ·)

variable {vs : List Moment} {l : Ledger}

theorem balanced_ofList (vs : List Moment) : Balanced vs (ofList vs) :=
  ⟨Moment.sorted_perm vs, Moment.pairwise_sorted vs⟩

theorem Balanced.inOrder (h : Balanced vs l) : Moment.InOrder l.cursor.values :=
  Moment.inOrder_of_pairwise_le (List.pairwise_append.1 h.ascending).2.1

theorem enter_eq (h : Moment.InOrder l.cursor.values) (operation : Operation) :
    (l.enter operation).discarded =
        l.discarded ++ l.cursor.values.filter operation.discards ∧
      (l.enter operation).handedOut ++ (l.enter operation).cursor.values =
        l.handedOut ++ l.cursor.values.filter fun m => !operation.discards m := by
  have hkept := FixedCursor.values_run h operation
  constructor
  · show l.discarded ++ l.cursor.values.diff
      ((operation.run l.cursor).1.values ++ (operation.run l.cursor).2.values) = _
    rw [hkept, diff_filter_not]
  · show l.handedOut ++ (operation.run l.cursor).1.values ++ (operation.run l.cursor).2.values = _
    rw [List.append_assoc, hkept]

theorem Balanced.enter (h : Balanced vs l) (operation : Operation) :
    Balanced vs (l.enter operation) := by
  obtain ⟨hdiscarded, hkept⟩ := enter_eq h.inOrder operation
  refine ⟨?perm, ?ascending⟩
  case perm =>
    -- counted for each value, an operation only moves what was pending into one of the entries
    rw [List.perm_iff_count]
    intro m
    have hbefore := h.perm.count_eq m
    have hsplit := (List.filter_append_perm operation.discards l.cursor.values).count_eq m
    have hdiscarded := congrArg (List.count m) hdiscarded
    have hkept := congrArg (List.count m) hkept
    simp only [List.count_append] at hbefore hsplit hdiscarded hkept ⊢
    omega
  case ascending =>
    rw [hkept]
    exact h.ascending.sublist (List.filter_sublist.append_left l.handedOut)

theorem balanced_foldl (h : Balanced vs l) (operations : List Operation) :
    Balanced vs (operations.foldl Ledger.enter l) := by
  induction operations generalizing l with
  | nil => exact h
  | cons operation operations ih => exact ih (h.enter operation)

theorem handedOut_foldl (fresh : FixedCursor) (l : Ledger) (operations : List Operation) :
    (operations.foldl Ledger.enter l).handedOut =
      l.handedOut ++
        (answers fresh [l.cursor] (operations.map (Request.operate 0))).flatMap Answer.values := by
  induction operations generalizing l with
  | nil => exact (List.append_nil _).symm
  | cons operation operations ih =>
    rw [List.foldl_cons, ih, List.map_cons, answers, List.flatMap_cons, ← List.append_assoc]
    rfl

/-- Whatever is asked of a cursor over a list, the values that it has handed out, those that it has
discarded and those still pending are the values of the list, repeats included. They are handed out
in order. An operation discards the pending values that precede its target if it advances, and no
others; and the order in which the values were given plays no part. -/
theorem entries_perm (vs : List Moment) (operations : List Operation) :
    let l := operations.foldl Ledger.enter (ofList vs)
    l.handedOut = (FixedCursor.answersFor vs (operations.map (Request.operate 0))).flatMap
        Answer.values ∧
      (l.handedOut ++ l.discarded ++ l.cursor.values).Perm vs ∧
      l.handedOut.Pairwise (· ≤ ·) ∧
      (∀ operation, (l.enter operation).discarded =
          l.discarded ++ l.cursor.values.filter operation.discards ∧
        (l.enter operation).handedOut ++ (l.enter operation).cursor.values =
          l.handedOut ++ l.cursor.values.filter fun m => !operation.discards m) ∧
      ∀ ws : List Moment, ws.Perm vs → ∀ requests,
        FixedCursor.answersFor ws requests = FixedCursor.answersFor vs requests := by
  intro l
  have hbalanced : Balanced vs l := balanced_foldl (balanced_ofList vs) operations
  refine ⟨handedOut_foldl (FixedCursor.ofList vs) (ofList vs) operations, hbalanced.perm,
    (List.pairwise_append.1 hbalanced.ascending).1, enter_eq hbalanced.inOrder, ?_⟩
  intro ws hperm requests
  have hsame : FixedCursor.ofList ws = FixedCursor.ofList vs := by
    rw [FixedCursor.ofList, Moment.sorted_eq_of_perm (hperm.trans (Moment.sorted_perm vs).symm)
      (Moment.pairwise_sorted vs)]
    rfl
  rw [FixedCursor.answersFor, hsame]
  rfl

/-- A day that is listed twice, its midnight and nine o'clock on it, and noon of the day before. -/
theorem entries_perm_shuffled :
    let noon := Moment.ofSecond 1704110400 false
    let day := Moment.ofSecond 1704153600 true
    let midnight := Moment.ofSecond 1704153600 false
    let nine := Moment.ofSecond 1704186000 false
    let vs := [nine, day, noon, midnight, day]
    let ws := [midnight, day, nine, day, noon]
    let l := [Operation.hasNext, .next, .advanceTo nine].foldl Ledger.enter (ofList vs)
    ws.Perm vs ∧ l = ⟨[noon], [day, day, midnight], ⟨[nine]⟩⟩ ∧
      (l.handedOut ++ l.discarded ++ l.cursor.values).Perm vs ∧
      ∀ requests, FixedCursor.answersFor ws requests = FixedCursor.answersFor vs requests := by
  intro noon day midnight nine vs ws l
  have hperm : ws.Perm vs := by decide +kernel
  have hsorted : Moment.sorted vs = [noon, day, day, midnight, nine] :=
    Moment.sorted_eq_of_perm (by decide +kernel) (by decide +kernel)
  have hl : l = ⟨[noon], [day, day, midnight], ⟨[nine]⟩⟩ := by
    show [Operation.hasNext, .next, .advanceTo nine].foldl Ledger.enter
      ⟨[], [], ⟨Moment.sorted vs⟩⟩ = _
    rw [hsorted]
    decide +kernel
  obtain ⟨-, hentries, -, -, hsame⟩ := entries_perm vs [.hasNext, .next, .advanceTo nine]
  exact ⟨hperm, hl, hentries, hsame ws hperm⟩

end Ledger

end Almanac
