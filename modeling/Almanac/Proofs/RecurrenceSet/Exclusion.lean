import Almanac.Proofs.RecurrenceSet.Ending

/-! What is taken away from a recurrence set. An exclusion rule that gives its instants in order has
given every instant up to a point once it has gone beyond it, and so following rules only as far as
needed takes away what following them to the end would. -/

namespace Almanac

open Supply (toList toList_of_some toList_of_none)

/-- The rules and the instants collected from them so far take away the instants in `gone`, and the
rules give what is left of theirs in order. -/
structure Exclusion.Removes (gone : List Int) (x : Exclusion) : Prop where
  mem_iff : ∀ n, n ∈ gone ↔ n ∈ x.instants ∨ ∃ e ∈ x.rules, n ∈ toList e
  ascending : ∀ e ∈ x.rules, (toList e).Pairwise (· ≤ ·)

namespace Exclusion

theorem mem_insert_iff {instants : Std.TreeSet Int} {m n : Int} :
    n ∈ instants.insert m ↔ n = m ∨ n ∈ instants := by
  rw [Std.TreeSet.mem_insert, Std.LawfulEqCmp.compare_eq_iff_eq, eq_comm]

theorem follow_spec (n : Int) (instants : Std.TreeSet Int) {e : Expansion}
    (h : (toList e).Pairwise (· ≤ ·)) :
    (∀ m, m ∈ (follow n instants e).2 ∨ m ∈ toList (follow n instants e).1 ↔
        m ∈ instants ∨ m ∈ toList e) ∧
      (toList (follow n instants e).1).Pairwise (· ≤ ·) ∧
        ∀ m ∈ toList (follow n instants e).1, n < m := by
  fun_induction follow n instants e with
  | case1 instants e e' hnext =>
    have hend : toList e' = [] := Supply.EndsForGood.toList_of_ended hnext
    have hnone : toList e = [] := toList_of_none hnext
    rw [hend, hnone]
    exact ⟨fun m => Iff.rfl, List.Pairwise.nil, fun m hm => absurd hm List.not_mem_nil⟩
  | case2 instants e k e' hnext hlt =>
    have hcons : toList e = k :: toList e' := toList_of_some hnext
    rw [hcons, List.pairwise_cons] at h
    refine ⟨fun m => ?_, h.2, fun m hm => Int.lt_of_lt_of_le hlt (h.1 m hm)⟩
    rw [hcons, List.mem_cons, mem_insert_iff]
    grind
  | case3 instants e k e' hnext hlt ih =>
    have hcons : toList e = k :: toList e' := toList_of_some hnext
    rw [hcons, List.pairwise_cons] at h
    obtain ⟨hmem, hasc, hbeyond⟩ := ih h.2
    refine ⟨fun m => ?_, hasc, hbeyond⟩
    rw [hmem, hcons, List.mem_cons, mem_insert_iff]
    grind

theorem followAll_spec (n : Int) (instants : Std.TreeSet Int) {es : List Expansion}
    (h : ∀ e ∈ es, (toList e).Pairwise (· ≤ ·)) :
    (∀ m, (m ∈ (followAll n instants es).2 ∨ ∃ e ∈ (followAll n instants es).1, m ∈ toList e) ↔
        m ∈ instants ∨ ∃ e ∈ es, m ∈ toList e) ∧
      ∀ e ∈ (followAll n instants es).1,
        (toList e).Pairwise (· ≤ ·) ∧ ∀ m ∈ toList e, n < m := by
  induction es generalizing instants with
  | nil => simp [followAll]
  | cons e es ih =>
    obtain ⟨he, hes⟩ := List.forall_mem_cons.1 h
    obtain ⟨hmem, hasc, hbeyond⟩ := follow_spec n instants he
    obtain ⟨hmems, hrest⟩ := ih (follow n instants e).2 hes
    simp only [followAll]
    refine ⟨fun m => ?_, List.forall_mem_cons.2 ⟨⟨hasc, hbeyond⟩, hrest⟩⟩
    have hm := hmem m
    have hms := hmems m
    simp only [List.mem_cons, exists_eq_or_imp]
    grind

theorem Removes.excludes {gone : List Int} {x : Exclusion} (h : x.Removes gone) (n : Int) :
    (x.excludes n).1 = decide (n ∈ gone) ∧ (x.excludes n).2.Removes gone := by
  obtain ⟨hmem, hrest⟩ := followAll_spec n x.instants h.ascending
  refine ⟨?_, ⟨fun m => (h.mem_iff m).trans (hmem m).symm, fun e he => (hrest e he).1⟩⟩
  -- the rules have gone beyond `n`, so that it is among the collected instants or nowhere
  have hbeyond : ¬∃ e ∈ (followAll n x.instants x.rules).1, n ∈ toList e := by
    rintro ⟨e, he, hn⟩
    exact Int.lt_irrefl n ((hrest e he).2 n hn)
  have hn : n ∈ (followAll n x.instants x.rules).2 ↔ n ∈ gone := by
    rw [h.mem_iff, ← hmem]
    exact ⟨Or.inl, fun hor => hor.resolve_right hbeyond⟩
  rw [Exclusion.excludes, Bool.eq_iff_iff, Std.TreeSet.contains_iff_mem, hn, decide_eq_true_iff]

end Exclusion

def kept (gone ns : List Int) : List Int :=
  ns.filter fun n => decide (n ∉ gone)

theorem mem_kept {gone ns : List Int} {n : Int} : n ∈ kept gone ns ↔ n ∈ ns ∧ n ∉ gone := by
  rw [kept, List.mem_filter, decide_eq_true_iff]

theorem kept_cons_of_mem {gone : List Int} {n : Int} (ns : List Int) (h : n ∈ gone) :
    kept gone (n :: ns) = kept gone ns :=
  List.filter_cons_of_neg (by simpa using h)

theorem kept_cons_of_not_mem {gone : List Int} {n : Int} (ns : List Int) (h : n ∉ gone) :
    kept gone (n :: ns) = n :: kept gone ns :=
  List.filter_cons_of_pos (by simpa using h)

theorem Exclusion.Removes.nextKept {gone : List Int} {x : Exclusion} (h : x.Removes gone)
    (e : Expansion) :
    (Strand.nextKept x e).1 = (kept gone (toList e)).head? ∧
      kept gone (toList (Strand.nextKept x e).2.1) = (kept gone (toList e)).tail ∧
        (Strand.nextKept x e).2.2.Removes gone := by
  fun_induction Strand.nextKept x e with
  | case1 x e e' hnext =>
    have hend : toList e' = [] := Supply.EndsForGood.toList_of_ended hnext
    have hnone : toList e = [] := toList_of_none hnext
    rw [hend, hnone]
    exact ⟨rfl, rfl, h⟩
  | case2 x e n e' hnext x' hx =>
    obtain ⟨hn, hx'⟩ := h.excludes n
    rw [hx] at hn hx'
    have hcons : toList e = n :: toList e' := toList_of_some hnext
    rw [hcons, kept_cons_of_not_mem _ (of_decide_eq_false hn.symm)]
    exact ⟨rfl, rfl, hx'⟩
  | case3 x e n e' hnext x' hx ih =>
    obtain ⟨hn, hx'⟩ := h.excludes n
    rw [hx] at hn hx'
    have hcons : toList e = n :: toList e' := toList_of_some hnext
    rw [hcons, kept_cons_of_mem _ (of_decide_eq_true hn.symm)]
    exact ih hx'

theorem Exclusion.Removes.dropExcluded {gone : List Int} {x : Exclusion} (h : x.Removes gone)
    (ns : List Int) :
    kept gone (x.dropExcluded ns).1 = kept gone ns ∧ (x.dropExcluded ns).1 <:+ ns ∧
      (∀ d ds, (x.dropExcluded ns).1 = d :: ds → d ∉ gone) ∧
        (x.dropExcluded ns).2.Removes gone := by
  induction ns generalizing x with
  | nil =>
    have hnone (d : Int) (ds : List Int) (hd : [] = d :: ds) : d ∉ gone := by simp at hd
    exact ⟨rfl, List.suffix_refl _, hnone, h⟩
  | cons n ns ih =>
    obtain ⟨hn, hx'⟩ := h.excludes n
    unfold Exclusion.dropExcluded
    split
    · next x' hx =>
      rw [hx] at hn hx'
      refine ⟨rfl, List.suffix_refl _, fun d ds hd => ?_, hx'⟩
      rw [← (List.cons.inj hd).1]
      exact of_decide_eq_false hn.symm
    · next x' hx =>
      rw [hx] at hn hx'
      obtain ⟨hkept, hsuffix, hhead, hafter⟩ := ih hx'
      rw [kept_cons_of_mem _ (of_decide_eq_true hn.symm)]
      exact ⟨hkept, hsuffix.trans (List.suffix_cons n ns), hhead, hafter⟩

end Almanac
