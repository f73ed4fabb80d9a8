import Almanac.Proofs.RecurrenceSet.Occurrences

/-! Where the instants of a recurrence set come from. Whether or not rules give their instants in
order, a run delivers nothing that neither a rule nor a date adds: `source_of_mem`. -/

namespace Almanac

open Supply (toList toList_of_some toList_of_none)

variable {P : Int → Prop}

namespace Strand

structure Gives (P : Int → Prop) (s : Strand) : Prop where
  head : ∀ n, s.head? = some n → P n
  rest : ∀ n ∈ toList s.expansion, P n

theorem forall_nextKept {e : Expansion} (x : Exclusion) (h : ∀ n ∈ toList e, P n) :
    (∀ n, (nextKept x e).1 = some n → P n) ∧ ∀ n ∈ toList (nextKept x e).2.1, P n := by
  fun_induction nextKept x e with
  | case1 x e e' hnext =>
    rw [Supply.EndsForGood.toList_of_ended hnext]
    exact ⟨fun n hn => by simp at hn, fun n hn => absurd hn List.not_mem_nil⟩
  | case2 x e n e' hnext x' hx =>
    rw [toList_of_some hnext] at h
    obtain ⟨hn, hrest⟩ := List.forall_mem_cons.1 h
    exact ⟨fun m hm => Option.some.inj hm ▸ hn, hrest⟩
  | case3 x e n e' hnext x' hx ih =>
    rw [toList_of_some hnext] at h
    exact ih (List.forall_mem_cons.1 h).2

theorem Gives.fill {s : Strand} (h : s.Gives P) (x : Exclusion) : (fill x s).1.Gives P := by
  unfold Strand.fill
  split
  · exact h
  · obtain ⟨hhead, hrest⟩ := forall_nextKept x h.rest
    exact ⟨hhead, hrest⟩

theorem gives_fillAll {ss : List Strand} (x : Exclusion) (h : ∀ s ∈ ss, s.Gives P) :
    ∀ s ∈ (fillAll x ss).1, s.Gives P := by
  induction ss generalizing x with
  | nil => exact h
  | cons s ss ih =>
    obtain ⟨hs, hss⟩ := List.forall_mem_cons.1 h
    exact List.forall_mem_cons.2 ⟨hs.fill x, ih _ hss⟩

end Strand

theorem Exclusion.forall_dropExcluded {ns : List Int} (x : Exclusion) (h : ∀ n ∈ ns, P n) :
    ∀ n ∈ (x.dropExcluded ns).1, P n := by
  induction ns generalizing x with
  | nil => exact h
  | cons n ns ih =>
    unfold dropExcluded
    split
    · exact h
    · exact ih _ (List.forall_mem_cons.1 h).2

namespace SetRun

structure Gives (P : Int → Prop) (run : SetRun) : Prop where
  strands : ∀ s ∈ run.strands, s.Gives P
  dates : ∀ n ∈ run.dates, P n

theorem Gives.prepared {run : SetRun} (h : run.Gives P) : run.prepared.Gives P where
  strands := Strand.gives_fillAll _ h.strands
  dates := Exclusion.forall_dropExcluded _ h.dates

theorem Gives.next {run run' : SetRun} {n : Int} (h : run.Gives P)
    (hnext : run.next = (some n, run')) : P n ∧ run'.Gives P := by
  have hprep := h.prepared
  obtain ⟨-, -, ⟨ds, hdates, rfl⟩ | ⟨left, s, right, hstrands, hs, rfl⟩⟩ := cases_of_next hnext
  · have hall := hprep.dates
    rw [hdates] at hall
    obtain ⟨hn, hrest⟩ := List.forall_mem_cons.1 hall
    exact ⟨hn, hprep.strands, hrest⟩
  · have hall := hprep.strands
    rw [hstrands] at hall
    obtain ⟨hleft, hgiven⟩ := List.forall_mem_append.1 hall
    obtain ⟨hgives, hright⟩ := List.forall_mem_cons.1 hgiven
    have hemptied : Strand.Gives P { s with head? := none } :=
      ⟨fun m hm => by simp at hm, hgives.rest⟩
    refine ⟨hgives.head n hs, ?_, hprep.dates⟩
    exact List.forall_mem_append.2 ⟨hleft, List.forall_mem_cons.2 ⟨hemptied, hright⟩⟩

theorem Gives.forall_mem {run : SetRun} (h : run.Gives P) : ∀ n ∈ toList run, P n := by
  induction run using Supply.induction with
  | ended run run' hnext =>
    rw [toList_of_none hnext]
    exact fun n hn => absurd hn List.not_mem_nil
  | given run n run' hnext ih =>
    obtain ⟨hn, hrest⟩ := h.next hnext
    rw [toList_of_some hnext]
    exact List.forall_mem_cons.2 ⟨hn, ih hrest⟩

end SetRun

theorem RecurrenceSet.source_of_mem {s : RecurrenceSet} {n : Int}
    (h : n ∈ toList (SetRun.ofSet s)) : n ∈ s.dates ∨ ∃ r ∈ s.rules, n ∈ s.expand r := by
  let fromSource (m : Int) : Prop := m ∈ s.dates ∨ ∃ r ∈ s.rules, m ∈ s.expand r
  refine SetRun.Gives.forall_mem (P := fromSource) ⟨?strands, ?dates⟩ n h
  case strands =>
    intro t ht
    obtain ⟨r, hr, rfl⟩ := List.mem_map.1 ht
    exact ⟨fun m hm => by simp at hm, fun m hm => Or.inr ⟨r, hr, hm⟩⟩
  case dates =>
    intro d hd
    exact Or.inl (List.mem_mergeSort.1 hd)

end Almanac
