import Almanac.Proofs.Calendar.Moment
import Almanac.Proofs.Cursor.Rising

/-! Pending values in order. The instants of a cursor rise strictly, and so, with whole days at
midnight, its values never go back on the timeline; advancing to a target therefore takes away all
values before it, not only the first ones. -/

namespace Almanac

namespace Moment

def InOrder (ms : List Moment) : Prop :=
  ms.Pairwise fun a b => ¬b.Precedes a

theorem InOrder.precedes_of_cons {m target : Moment} {ms : List Moment} (h : InOrder (m :: ms))
    (hm : ¬m.Precedes target) : ∀ a ∈ ms, ¬a.Precedes target := by
  intro a ha hlt
  have hle : ¬a.Precedes m := (List.pairwise_cons.1 h).1 a ha
  unfold Precedes at hm hlt hle
  omega

theorem InOrder.length_takeWhile {ms : List Moment} (h : InOrder ms) (target : Moment) :
    (ms.takeWhile fun m => decide (m.Precedes target)).length =
      ms.countP fun m => decide (m.Precedes target) := by
  induction ms with
  | nil => rfl
  | cons m ms ih =>
    by_cases hm : m.Precedes target
    · rw [List.takeWhile_cons_of_pos (by simpa using hm), List.length_cons, ih h.of_cons,
        List.countP_cons_of_pos (by simpa using hm)]
    · have hrest := h.precedes_of_cons hm
      rw [List.takeWhile_cons_of_neg (by simpa using hm), List.length_nil, eq_comm,
        List.countP_eq_zero]
      exact List.forall_mem_cons.2 ⟨by simpa using hm, fun a ha => by simpa using hrest a ha⟩

theorem InOrder.dropWhile_eq_filter {ms : List Moment} (h : InOrder ms) (target : Moment) :
    (ms.dropWhile fun m => decide (m.Precedes target)) =
      ms.filter fun m => decide (¬m.Precedes target) := by
  induction ms with
  | nil => rfl
  | cons m ms ih =>
    by_cases hm : m.Precedes target
    · rw [List.dropWhile_cons_of_pos (by simpa using hm), ih h.of_cons,
        List.filter_cons_of_neg (by simpa using hm)]
    · have hrest := h.precedes_of_cons hm
      rw [List.dropWhile_cons_of_neg (by simpa using hm), eq_comm, List.filter_eq_self]
      exact List.forall_mem_cons.2 ⟨by simpa using hm, fun a ha => by simpa using hrest a ha⟩

theorem InOrder.dropWhile_eq_drop {ms : List Moment} (h : InOrder ms) (target : Moment) :
    (ms.dropWhile fun m => decide (m.Precedes target)) =
      ms.drop (ms.countP fun m => decide (m.Precedes target)) := by
  let p : Moment → Bool := fun m => decide (m.Precedes target)
  calc ms.dropWhile p = (ms.takeWhile p ++ ms.dropWhile p).drop (ms.takeWhile p).length :=
        List.drop_left.symm
    _ = ms.drop (ms.takeWhile p).length := by rw [List.takeWhile_append_dropWhile]
    _ = ms.drop (ms.countP p) := by rw [h.length_takeWhile target]

end Moment

namespace Cursor

variable {σ : Type} {c : Cursor σ} {i j : Instant}

theorem second_shown (hmid : ∀ t ∈ c.wholeDays, t.second % 86400 = 0) (t : Instant) :
    (c.shown t).second = if c.wholeDay then 86400 * (t.second / 86400) else t.second := by
  rw [shown, Moment.ofInstant, Moment.second_ofSecond]
  cases c.wholeDay with
  | true => rfl
  | false =>
    rw [Bool.false_or, if_neg Bool.false_ne_true]
    split
    · next ht =>
      -- a day that is marked stands at midnight already, so that rounding down does not move it
      have := hmid t (by simpa using ht)
      omega
    · rfl

theorem precedes_shown_iff (hmid : ∀ t ∈ c.wholeDays, t.second % 86400 = 0) :
    (c.shown i).Precedes (c.shown j) ↔
      if c.wholeDay then i.second / 86400 < j.second / 86400 else i.second < j.second := by
  rw [Moment.Precedes, second_shown hmid, second_shown hmid]
  split
  · omega
  · rfl

theorem second_shown_mono (hmid : ∀ t ∈ c.wholeDays, t.second % 86400 = 0) (h : i ≤ j) :
    (c.shown i).second ≤ (c.shown j).second := by
  have hsecond := Instant.second_le h
  rw [second_shown hmid, second_shown hmid]
  split
  · omega
  · exact hsecond

theorem shown_le (hmid : ∀ t ∈ c.wholeDays, t.second % 86400 = 0)
    (hwhole : ∀ t ∈ c.wholeDays, t.nanosecond = 0) (h : i < j) : c.shown i ≤ c.shown j := by
  have hshape (t : Instant) :
      (c.shown t).isWholeDay = (c.wholeDay || c.wholeDays.contains t) :=
    Moment.isWholeDay_ofSecond ..
  rcases Int.lt_or_eq_of_le (second_shown_mono hmid h.le) with hlt | hsame
  · exact Moment.le_iff.2 (Or.inl hlt)
  · refine Moment.le_iff.2 (Or.inr ⟨hsame, Moment.rank_le_of_isWholeDay ?_⟩)
    rw [second_shown hmid, second_shown hmid] at hsame
    rw [hshape, hshape]
    cases hw : c.wholeDay with
    | true => exact fun _ => rfl
    | false =>
      -- the second that a marked day begins with holds no instant before the mark
      intro hj
      rw [hw] at hsame
      have hfirst : j.nanosecond = 0 := hwhole j (by simpa using hj)
      have hsecond : i.second = j.second := hsame
      have hlt := Instant.lt_iff.1 h
      omega

theorem inOrder_pending [Supply σ Instant] (hmid : ∀ t ∈ c.wholeDays, t.second % 86400 = 0)
    (hpeek : c.peeked = none) : Moment.InOrder c.pending := by
  rw [pending_of_none hpeek]
  refine List.pairwise_map.2 ((pairwise_rising _ _).imp fun {i j} hij => ?_)
  exact Int.not_lt.2 (second_shown_mono hmid hij.le)

end Cursor

end Almanac
