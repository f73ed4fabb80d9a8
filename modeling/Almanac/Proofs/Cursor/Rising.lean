import Almanac.Cursor.Basic
import Almanac.Proofs.Calendar.Instant
import Almanac.Proofs.Supply

/-! A cursor as the list of its pending values. Of the instants of its source a cursor keeps the
rising ones, each later than all before it; every operation takes values from the front of the list
of those that are pending, shown in their shapes, and `hasNext` takes none. -/

namespace Almanac

namespace Cursor

section Rising

variable {α : Type} [LinearOrder α] {last : Option α} {n i : α}

/-- The members of a list that are later than `last` and than all before them. -/
def rising (last : Option α) : List α → List α
  | [] => []
  | n :: ns => if last.any (n ≤ ·) then rising last ns else n :: rising (some n) ns

theorem rising_cons_of_le (ns : List α) (h : last.any (n ≤ ·) = true) :
    rising last (n :: ns) = rising last ns := by
  rw [rising, if_pos h]

theorem rising_cons_of_lt (ns : List α) (h : ¬last.any (n ≤ ·) = true) :
    rising last (n :: ns) = n :: rising (some n) ns := by
  rw [rising, if_neg h]

theorem exists_of_any_le (h : last.any (n ≤ ·) = true) : ∃ l, last = some l ∧ n ≤ l := by
  cases last with
  | none => simp at h
  | some l => exact ⟨l, rfl, by simpa using h⟩

theorem lt_of_mem_rising {ns : List α} {l : α} (hi : i ∈ rising last ns) (hl : last = some l) :
    l < i := by
  induction ns generalizing last l with
  | nil => simp [rising] at hi
  | cons n ns ih =>
    by_cases h : last.any (n ≤ ·) = true
    · rw [rising_cons_of_le ns h] at hi
      exact ih hi hl
    · rw [rising_cons_of_lt ns h] at hi
      have hn : l < n := by simpa [hl] using h
      rcases List.mem_cons.1 hi with rfl | hi
      · exact hn
      · exact lt_trans hn (ih hi rfl)

theorem pairwise_rising (last : Option α) (ns : List α) : (rising last ns).Pairwise (· < ·) := by
  induction ns generalizing last with
  | nil => exact List.Pairwise.nil
  | cons n ns ih =>
    by_cases h : last.any (n ≤ ·) = true
    · rw [rising_cons_of_le ns h]
      exact ih last
    · rw [rising_cons_of_lt ns h]
      exact List.pairwise_cons.2 ⟨fun i hi => lt_of_mem_rising hi rfl, ih (some n)⟩

theorem mem_rising_iff {ns : List α} :
    i ∈ rising last ns ↔
      (∀ l, last = some l → l < i) ∧
        ∃ before after, ns = before ++ i :: after ∧ ∀ j ∈ before, j < i := by
  induction ns generalizing last with
  | nil => simp [rising]
  | cons n ns ih =>
    by_cases h : last.any (n ≤ ·) = true
    · obtain ⟨l, hl, hn⟩ := exists_of_any_le h
      rw [rising_cons_of_le ns h, ih]
      refine and_congr_right fun hlast => ?_
      have hni : n < i := lt_of_le_of_lt hn (hlast l hl)
      -- what is dropped is earlier than `i`, and may stand before it or not
      constructor
      · rintro ⟨before, after, rfl, hb⟩
        exact ⟨n :: before, after, rfl, List.forall_mem_cons.2 ⟨hni, hb⟩⟩
      · rintro ⟨before, after, heq, hb⟩
        cases before with
        | nil => exact absurd (List.cons.inj heq).1 hni.ne
        | cons b before =>
          exact ⟨before, after, (List.cons.inj heq).2, (List.forall_mem_cons.1 hb).2⟩
    · rw [rising_cons_of_lt ns h, List.mem_cons, ih]
      constructor
      · rintro (rfl | ⟨hlast, before, after, rfl, hb⟩)
        · exact ⟨fun l hl => by simpa [hl] using h, [], ns, rfl, by simp⟩
        · have hni := hlast n rfl
          refine ⟨fun l hl => ?_, n :: before, after, rfl, List.forall_mem_cons.2 ⟨hni, hb⟩⟩
          have hn : l < n := by simpa [hl] using h
          exact lt_trans hn hni
      · rintro ⟨hlast, before, after, heq, hb⟩
        cases before with
        | nil => exact Or.inl (List.cons.inj heq).1.symm
        | cons b before =>
          obtain ⟨rfl, hns⟩ := List.cons.inj heq
          have hb := List.forall_mem_cons.1 hb
          refine Or.inr ⟨fun l hl => ?_, before, after, hns, hb.2⟩
          rw [← Option.some.inj hl]
          exact hb.1

theorem mem_of_mem_rising {ns : List α} (h : i ∈ rising last ns) : i ∈ ns := by
  obtain ⟨-, before, after, rfl, -⟩ := mem_rising_iff.1 h
  exact List.mem_append_right before List.mem_cons_self

theorem mem_rising_of_ascending {ns : List α} (h : ns.Pairwise (· ≤ ·)) :
    i ∈ rising none ns ↔ i ∈ ns := by
  constructor
  · exact mem_of_mem_rising
  · intro hi
    obtain ⟨before, after, rfl, hnew⟩ := List.eq_append_cons_of_mem hi
    refine mem_rising_iff.2 ⟨by simp, before, after, rfl, fun j hj => ?_⟩
    have hle : j ≤ i := (List.pairwise_append.1 h).2.2 j hj i List.mem_cons_self
    exact lt_of_le_of_ne hle fun heq => hnew (heq ▸ hj)

theorem rising_map {β : Type} [LinearOrder β] {f : α → β} (hf : ∀ m n, f m ≤ f n ↔ m ≤ n)
    (last : Option α) (ns : List α) :
    rising (last.map f) (ns.map f) = (rising last ns).map f := by
  induction ns generalizing last with
  | nil => rfl
  | cons n ns ih =>
    have hany : (last.map f).any (f n ≤ ·) = last.any (n ≤ ·) := by
      cases last with
      | none => rfl
      | some l => exact decide_eq_decide.2 (hf n l)
    rw [List.map_cons, rising, rising, hany, ih]
    split
    · rfl
    · rw [List.map_cons, ← ih (some n), Option.map_some]

end Rising

variable {σ : Type} [Supply σ Instant]

/-- The instants that the cursor has still to draw and will keep. -/
def ahead (c : Cursor σ) : List Instant :=
  rising c.last (Supply.toList c.source)

def pending (c : Cursor σ) : List Moment :=
  c.peeked.toList ++ c.ahead.map c.shown

theorem pull_cases [Supply.EndsForGood σ] (c : Cursor σ) :
    (∃ source, c.ahead = [] ∧ Supply.toList source = [] ∧ c.pull = (none, { c with source })) ∨
      ∃ t source, c.ahead = t :: rising (some t) (Supply.toList source) ∧
        c.pull = (some (c.shown t), { c with source, last := some t }) := by
  fun_induction pull c with
  | case1 c source hnext =>
    refine Or.inl ⟨source, ?_, Supply.EndsForGood.toList_of_ended hnext, rfl⟩
    rw [ahead, Supply.toList_of_none hnext, rising]
  | case2 c t source hnext hle ih =>
    have hahead : c.ahead = ahead { c with source } := by
      rw [ahead, Supply.toList_of_some hnext, rising_cons_of_le _ hle, ahead]
    rw [hahead]
    exact ih
  | case3 c t source hnext hlt =>
    refine Or.inr ⟨t, source, ?_, rfl⟩
    rw [ahead, Supply.toList_of_some hnext, rising_cons_of_lt _ hlt]

theorem pending_of_peeked {c : Cursor σ} {m : Moment} (h : c.peeked = some m) :
    c.pending = m :: c.ahead.map c.shown := by
  rw [pending, h, Option.toList_some, List.singleton_append]

theorem pending_of_none {c : Cursor σ} (h : c.peeked = none) :
    c.pending = c.ahead.map c.shown := by
  rw [pending, h, Option.toList_none, List.nil_append]

theorem next_of_none {c : Cursor σ} (h : c.peeked = none) : c.next = c.pull := by
  rw [next, h]

variable [Supply.EndsForGood σ]

theorem peek_eq (c : Cursor σ) :
    c.peek.1 = c.pending.head? ∧ c.peek.2.peeked = c.peek.1 ∧ c.peek.2.pending = c.pending := by
  unfold peek
  split
  · next m hm => exact ⟨by rw [pending_of_peeked hm, List.head?_cons], hm, rfl⟩
  · next hm =>
    rw [pending_of_none hm]
    rcases pull_cases c with ⟨source, hahead, hend, hpull⟩ | ⟨t, source, hahead, hpull⟩
    · rw [hpull, hahead]
      refine ⟨rfl, rfl, ?_⟩
      rw [pending_of_none rfl, ahead, hend, rising, List.map_nil, List.map_nil]
    · rw [hpull, hahead]
      refine ⟨rfl, rfl, ?_⟩
      rw [pending_of_peeked rfl, ahead, List.map_cons]
      rfl

theorem next_eq (c : Cursor σ) :
    c.next.1 = c.pending.head? ∧ c.next.2.pending = c.pending.tail := by
  unfold next
  split
  · next m hm =>
    rw [pending_of_peeked hm]
    exact ⟨rfl, pending_of_none rfl⟩
  · next hm =>
    rw [pending_of_none hm]
    rcases pull_cases c with ⟨source, hahead, hend, hpull⟩ | ⟨t, source, hahead, hpull⟩
    · rw [hpull, hahead]
      have hnone : pending { c with source } = (ahead { c with source }).map c.shown :=
        pending_of_none hm
      refine ⟨rfl, ?_⟩
      rw [hnone, ahead, hend, rising, List.map_nil, List.tail_nil]
    · rw [hpull, hahead]
      exact ⟨rfl, pending_of_none hm⟩

theorem advance_eq (target : Moment) (discarded : Nat) (c : Cursor σ) :
    (advance target discarded c).1 =
        discarded + (c.pending.takeWhile fun m => decide (m.Precedes target)).length ∧
      (advance target discarded c).2.pending =
        c.pending.dropWhile fun m => decide (m.Precedes target) := by
  fun_induction advance target discarded c with
  | case1 discarded c c' hpeek =>
    obtain ⟨hfst, -, hpend⟩ := peek_eq c
    rw [hpeek] at hfst hpend
    have hnil : c.pending = [] := List.head?_eq_none_iff.1 hfst.symm
    rw [hpend, hnil]
    exact ⟨rfl, rfl⟩
  | case2 discarded c m c' hpeek hbefore ih =>
    obtain ⟨hfst, hkept, hpend⟩ := peek_eq c
    rw [hpeek] at hfst hkept hpend
    have hcons : c.pending = m :: pending { c' with peeked := none } := by
      rw [← hpend, pending_of_peeked hkept, pending_of_none rfl]
      rfl
    rw [ih.1, ih.2, hcons, List.takeWhile_cons_of_pos (by simpa using hbefore),
      List.dropWhile_cons_of_pos (by simpa using hbefore), List.length_cons]
    exact ⟨by omega, rfl⟩
  | case3 discarded c m c' hpeek hbefore =>
    obtain ⟨hfst, -, hpend⟩ := peek_eq c
    rw [hpeek] at hfst hpend
    obtain ⟨rest, hcons⟩ : ∃ rest, c.pending = m :: rest :=
      List.head?_eq_some_iff.1 hfst.symm
    rw [hpend, hcons, List.takeWhile_cons_of_neg (by simpa using hbefore),
      List.dropWhile_cons_of_neg (by simpa using hbefore)]
    exact ⟨rfl, rfl⟩

end Cursor

end Almanac
