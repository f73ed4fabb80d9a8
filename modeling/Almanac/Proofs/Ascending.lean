/-! Lists of integers in order. Sorting puts them in order, and taking out repeats makes them go
up. -/

namespace Almanac

theorem eraseReps_loop_sublist (n : Int) (ns before : List Int) :
    (List.eraseRepsBy.loop (· == ·) n ns before).Sublist (before.reverse ++ n :: ns) := by
  induction ns generalizing n before with
  | nil =>
    have hdone : List.eraseRepsBy.loop (· == ·) n [] before = before.reverse ++ [n] := by
      rw [List.eraseRepsBy.loop, List.reverse_cons]
    exact hdone ▸ List.Sublist.refl _
  | cons m ms ih =>
    rw [List.eraseRepsBy.loop]
    split
    · exact (ih n before).trans
        (List.Sublist.append_left ((List.sublist_cons_self m ms).cons_cons n) _)
    · have hrest := ih m (n :: before)
      rw [List.reverse_cons, List.append_assoc, List.singleton_append] at hrest
      exact hrest

theorem eraseReps_sublist (ns : List Int) : ns.eraseReps.Sublist ns := by
  cases ns with
  | nil => exact List.Sublist.refl _
  | cons n ns => exact eraseReps_loop_sublist n ns []

theorem pairwise_eraseReps_loop {n : Int} {ns before : List Int}
    (hbefore : (before.reverse ++ [n]).Pairwise (· < ·)) (h : (n :: ns).Pairwise (· ≤ ·)) :
    (List.eraseRepsBy.loop (· == ·) n ns before).Pairwise (· < ·) := by
  induction ns generalizing n before with
  | nil =>
    rw [List.eraseRepsBy.loop, List.reverse_cons]
    exact hbefore
  | cons m ms ih =>
    obtain ⟨hn, hrest⟩ := List.pairwise_cons.1 h
    rw [List.eraseRepsBy.loop]
    split
    · exact ih hbefore (List.pairwise_cons.2
        ⟨fun k hk => hn k (List.mem_cons_of_mem m hk), hrest.of_cons⟩)
    · next hne =>
      have hlt : n < m := Int.lt_iff_le_and_ne.2
        ⟨hn m List.mem_cons_self, beq_eq_false_iff_ne.1 hne⟩
      refine ih ?_ hrest
      rw [List.reverse_cons]
      refine List.pairwise_append.2 ⟨hbefore, List.pairwise_singleton _ _, fun k hk l hl => ?_⟩
      rw [List.mem_singleton.1 hl]
      rcases List.mem_append.1 hk with hk | hk
      · exact Int.lt_trans
          ((List.pairwise_append.1 hbefore).2.2 k hk n List.mem_cons_self) hlt
      · rw [List.mem_singleton.1 hk]
        exact hlt

theorem pairwise_eraseReps {ns : List Int} (h : ns.Pairwise (· ≤ ·)) :
    ns.eraseReps.Pairwise (· < ·) := by
  cases ns with
  | nil => exact List.Pairwise.nil
  | cons n ns => exact pairwise_eraseReps_loop (List.pairwise_singleton _ _) h

theorem pairwise_mergeSort_decide {α : Type} {r : α → α → Prop} [DecidableRel r]
    (htrans : ∀ a b c, r a b → r b c → r a c) (htotal : ∀ a b, r a b ∨ r b a) (as : List α) :
    (as.mergeSort fun a b => decide (r a b)).Pairwise r := by
  let le (a b : α) : Bool := decide (r a b)
  have htrans' (a b c : α) : le a b = true → le b c = true → le a c = true := by
    simpa [le] using htrans a b c
  have htotal' (a b : α) : (le a b || le b a) = true := by
    simpa [le] using htotal a b
  exact (List.pairwise_mergeSort htrans' htotal' as).imp fun hab => of_decide_eq_true hab

theorem pairwise_mergeSort_le (ns : List Int) :
    (ns.mergeSort fun a b => decide (a ≤ b)).Pairwise (· ≤ ·) :=
  pairwise_mergeSort_decide (r := (· ≤ ·)) (fun _ _ _ => Int.le_trans) Int.le_total ns

structure IsRising (limit : Int) (ns : List Int) : Prop where
  ascending : ns.Pairwise (· < ·)
  bounded : ∀ n ∈ ns, 0 ≤ n ∧ n < limit

theorem isRising_singleton {limit : Int} {n : Nat} (h : (n : Int) < limit) :
    IsRising limit [Int.ofNat n] where
  ascending := List.pairwise_singleton _ _
  bounded m hm := by
    rw [List.mem_singleton.1 hm]
    exact ⟨Int.natCast_nonneg n, h⟩

end Almanac
