import Almanac.Proofs.Cursor.Order
import Mathlib.Data.List.Forall2

/-! Sessions: any number of cursors over one sequence, asked in any order. A `Pointer` is a cursor
that is nothing but a place in a fixed list of values. Cursors that every operation keeps in step
give the same answers in every session (`InStep.answers_eq`), and a cursor stays in step with a
pointer into its pending values. -/

namespace Almanac

inductive Operation
  | hasNext
  | next
  | advanceTo (target : Moment)

/-- A step of a session. Cursors are numbered in the order in which they are made. -/
inductive Request
  | operate (slot : Nat) (operation : Operation)
  | clone (slot : Nat)
  /-- A further cursor before the first value. -/
  | iter

inductive Answer
  | isLeft (left : Bool)
  | value (value? : Option Moment)
  | discarded (count : Nat)
  | made (slot : Nat)
  | noSuchSlot
deriving DecidableEq

section Pairs

variable {α β : Type} {R : α → β → Prop}

theorem forall₂_getElem? {as : List α} {bs : List β} (h : List.Forall₂ R as bs) (k : Nat) :
    (as[k]? = none ∧ bs[k]? = none) ∨ ∃ a b, as[k]? = some a ∧ bs[k]? = some b ∧ R a b := by
  induction h generalizing k with
  | nil => exact Or.inl ⟨rfl, rfl⟩
  | cons hab _ ih =>
    cases k with
    | zero => exact Or.inr ⟨_, _, rfl, rfl, hab⟩
    | succ k => exact ih k

theorem forall₂_set {as : List α} {bs : List β} {a : α} {b : β} (h : List.Forall₂ R as bs)
    (hab : R a b) (k : Nat) : List.Forall₂ R (as.set k a) (bs.set k b) := by
  induction h generalizing k with
  | nil => exact List.Forall₂.nil
  | cons hcd hrest ih =>
    cases k with
    | zero => exact List.Forall₂.cons hab hrest
    | succ k => exact List.Forall₂.cons hcd (ih k)

end Pairs

section Session

variable {γ : Type} [OccurrenceCursor γ]

def Operation.run : Operation → γ → Answer × γ
  | hasNext, c =>
    let (left, c) := OccurrenceCursor.hasNext c
    (.isLeft left, c)
  | next, c =>
    let (value?, c) := OccurrenceCursor.next c
    (.value value?, c)
  | advanceTo target, c =>
    let (count, c) := OccurrenceCursor.advanceTo target c
    (.discarded count, c)

def Request.run (fresh : γ) (cursors : List γ) : Request → Answer × List γ
  | operate slot operation =>
    match cursors[slot]? with
    | none => (.noSuchSlot, cursors)
    | some c =>
      let (answer, c) := operation.run c
      (answer, cursors.set slot c)
  | clone slot =>
    match cursors[slot]? with
    | none => (.noSuchSlot, cursors)
    | some c => (.made cursors.length, cursors ++ [c])
  | iter => (.made cursors.length, cursors ++ [fresh])

/-- The answers of a session in which new cursors start as `fresh`. -/
def answers (fresh : γ) : List γ → List Request → List Answer
  | _, [] => []
  | cursors, r :: rs =>
    (r.run fresh cursors).1 :: answers fresh (r.run fresh cursors).2 rs

def cursorsAfter (fresh : γ) (cursors : List γ) (rs : List Request) : List γ :=
  rs.foldl (fun cursors r => (r.run fresh cursors).2) cursors

theorem forall_mem_cursorsAfter {P : γ → Prop} {fresh : γ} (hfresh : P fresh)
    (hrun : ∀ c, P c → ∀ operation : Operation, P (operation.run c).2) {cursors : List γ}
    (h : ∀ c ∈ cursors, P c) (rs : List Request) : ∀ c ∈ cursorsAfter fresh cursors rs, P c := by
  induction rs generalizing cursors with
  | nil => exact h
  | cons r rs ih =>
    apply ih
    cases r with
    | operate slot operation =>
      cases hslot : cursors[slot]? with
      | none => simpa only [Request.run, hslot] using h
      | some c =>
        have hc : P c := h c (List.mem_of_getElem? hslot)
        simp only [Request.run, hslot]
        intro d hd
        rcases List.mem_or_eq_of_mem_set hd with hd | rfl
        · exact h d hd
        · exact hrun c hc operation
    | clone slot =>
      cases hslot : cursors[slot]? with
      | none => simpa only [Request.run, hslot] using h
      | some c =>
        have hc : P c := h c (List.mem_of_getElem? hslot)
        simp only [Request.run, hslot]
        exact List.forall_mem_append.2 ⟨h, List.forall_mem_singleton.2 hc⟩
    | iter => exact List.forall_mem_append.2 ⟨h, List.forall_mem_singleton.2 hfresh⟩

variable {γ' : Type} [OccurrenceCursor γ']

/-- Two kinds of cursors that every operation keeps in step. -/
def InStep (R : γ → γ' → Prop) : Prop :=
  ∀ c d, R c d → ∀ operation : Operation,
    (operation.run c).1 = (operation.run d).1 ∧ R (operation.run c).2 (operation.run d).2

namespace InStep

variable {R : γ → γ' → Prop} {fresh : γ} {fresh' : γ'} {cursors : List γ} {cursors' : List γ'}

theorem request (hR : InStep R) (hfresh : R fresh fresh') (h : List.Forall₂ R cursors cursors')
    (r : Request) :
    (r.run fresh cursors).1 = (r.run fresh' cursors').1 ∧
      List.Forall₂ R (r.run fresh cursors).2 (r.run fresh' cursors').2 := by
  cases r with
  | operate slot operation =>
    rcases forall₂_getElem? h slot with ⟨hc, hd⟩ | ⟨c, d, hc, hd, hcd⟩
    · simp only [Request.run, hc, hd, true_and]
      exact h
    · obtain ⟨hanswer, hafter⟩ := hR c d hcd operation
      simp only [Request.run, hc, hd]
      exact ⟨hanswer, forall₂_set h hafter slot⟩
  | clone slot =>
    rcases forall₂_getElem? h slot with ⟨hc, hd⟩ | ⟨c, d, hc, hd, hcd⟩
    · simp only [Request.run, hc, hd, true_and]
      exact h
    · simp only [Request.run, hc, hd]
      exact ⟨congrArg Answer.made h.length_eq,
        List.rel_append h (List.Forall₂.cons hcd List.Forall₂.nil)⟩
  | iter =>
    exact ⟨congrArg Answer.made h.length_eq,
      List.rel_append h (List.Forall₂.cons hfresh List.Forall₂.nil)⟩

theorem answers_eq (hR : InStep R) (hfresh : R fresh fresh') (h : List.Forall₂ R cursors cursors')
    (rs : List Request) : answers fresh cursors rs = answers fresh' cursors' rs := by
  induction rs generalizing cursors cursors' with
  | nil => rfl
  | cons r rs ih =>
    obtain ⟨hanswer, hafter⟩ := hR.request hfresh h r
    rw [answers, answers, hanswer, ih hafter]

theorem forall₂_cursorsAfter (hR : InStep R) (hfresh : R fresh fresh')
    (h : List.Forall₂ R cursors cursors') (rs : List Request) :
    List.Forall₂ R (cursorsAfter fresh cursors rs) (cursorsAfter fresh' cursors' rs) := by
  induction rs generalizing cursors cursors' with
  | nil => exact h
  | cons r rs ih => exact ih (hR.request hfresh h r).2

end InStep

end Session

/-- A place in a fixed sequence: how many of its values lie before it. -/
structure Pointer (values : List Moment) where
  position : Nat

namespace Pointer

variable {values : List Moment}

def rest (p : Pointer values) : List Moment :=
  values.drop p.position

instance : OccurrenceCursor (Pointer values) where
  hasNext p := (decide (p.position < values.length), p)
  next p := (values[p.position]?, ⟨p.position + 1⟩)
  advanceTo target p :=
    let count := p.rest.countP fun m => decide (m.Precedes target)
    (count, ⟨p.position + count⟩)

theorem rest_advanceTo (h : Moment.InOrder values) (target : Moment) (p : Pointer values) :
    (OccurrenceCursor.advanceTo target p).2.rest =
      p.rest.filter fun m => decide (¬m.Precedes target) := by
  have hrest : Moment.InOrder p.rest := h.sublist (List.drop_sublist _ _)
  rw [← hrest.dropWhile_eq_filter, hrest.dropWhile_eq_drop, rest, rest, List.drop_drop]
  rfl

end Pointer

namespace Cursor

variable {σ : Type} [Supply σ Instant] {values : List Moment}

def Follows (c : Cursor σ) (p : Pointer values) : Prop :=
  c.pending = p.rest

variable [Supply.EndsForGood σ]

theorem inStep_follows (hv : Moment.InOrder values) :
    InStep (Follows : Cursor σ → Pointer values → Prop) := by
  intro c p h operation
  have hrest : Moment.InOrder p.rest := hv.sublist (List.drop_sublist _ _)
  cases operation with
  | hasNext =>
    obtain ⟨hfst, -, hpend⟩ := peek_eq c
    have hleft : c.peek.1.isSome = decide (p.position < values.length) := by
      rw [hfst, h, Pointer.rest, List.head?_drop, Bool.eq_iff_iff, isSome_getElem?,
        decide_eq_true_iff]
    exact ⟨congrArg Answer.isLeft hleft, hpend.trans h⟩
  | next =>
    obtain ⟨hfst, hpend⟩ := next_eq c
    have hvalue : c.next.1 = values[p.position]? := by
      rw [hfst, h, Pointer.rest, List.head?_drop]
    refine ⟨congrArg Answer.value hvalue, ?_⟩
    show c.next.2.pending = values.drop (p.position + 1)
    rw [hpend, h, Pointer.rest, List.tail_drop]
  | advanceTo target =>
    obtain ⟨hcount, hpend⟩ := advance_eq target 0 c
    rw [h, Nat.zero_add, hrest.length_takeWhile] at hcount
    refine ⟨congrArg Answer.discarded hcount, ?_⟩
    show (advance target 0 c).2.pending = _
    rw [hpend, h, hrest.dropWhile_eq_filter, ← Pointer.rest_advanceTo hv]
    rfl

/-- The cursor after `k` values have been asked for. -/
def after (c : Cursor σ) : Nat → Cursor σ
  | 0 => c
  | k + 1 => c.next.2.after k

theorem fst_next_after (c : Cursor σ) (k : Nat) : (c.after k).next.1 = c.pending[k]? := by
  induction k generalizing c with
  | zero => rw [after, (next_eq c).1, List.head?_eq_getElem?]
  | succ k ih => rw [after, ih, (next_eq c).2, List.getElem?_tail]

theorem fst_next_after_of_none {c : Cursor σ} (h : c.peeked = none) (k : Nat) :
    (c.after k).next.1 = c.ahead[k]?.map c.shown := by
  rw [fst_next_after, pending_of_none h, List.getElem?_map]

theorem last_after {c : Cursor σ} (hpeek : c.peeked = none) {k : Nat} {t : Instant}
    (h : c.ahead[k]? = some t) : (c.after (k + 1)).last = some t := by
  induction k generalizing c with
  | zero =>
    rcases pull_cases c with ⟨source, hahead, -, -⟩ | ⟨i, source, hahead, hpull⟩
    · simp [hahead] at h
    · have hi : i = t := by simpa [hahead] using h
      show c.next.2.last = some t
      rw [next_of_none hpeek, hpull, hi]
  | succ k ih =>
    rcases pull_cases c with ⟨source, hahead, -, -⟩ | ⟨i, source, hahead, hpull⟩
    · simp [hahead] at h
    · have hnext : c.next.2 = { c with source, last := some i } := by
        rw [next_of_none hpeek, hpull]
      rw [after, hnext]
      refine ih hpeek ?_
      rw [hahead, List.getElem?_cons_succ] at h
      exact h

end Cursor

end Almanac
