import Almanac.Proofs.RecurrenceSet.Streams

/-! Running through a recurrence set to its end. Main statements: `toList_perm`, by which a run
delivers what the rules and the dates of the set add and nothing takes away, each as often as it is
added, and `toList_ascending`, for rules that give their instants in order. -/

namespace Almanac

open Supply (toList toList_of_some toList_of_none)

namespace Strand

def allPending (gone : List Int) (ss : List Strand) : List Int :=
  (ss.map (pending gone)).flatten

theorem mem_allPending {gone : List Int} {ss : List Strand} {n : Int} :
    n ∈ allPending gone ss ↔ ∃ s ∈ ss, n ∈ s.pending gone := by
  rw [allPending, ← List.flatMap_def, List.mem_flatMap]

def Ascending (gone : List Int) (ss : List Strand) : Prop :=
  ∀ s ∈ ss, (s.pending gone).Pairwise (· ≤ ·)

end Strand

namespace SetRun

def pending (gone : List Int) (run : SetRun) : List Int :=
  Strand.allPending gone run.strands ++ kept gone run.dates

theorem flatten_streams (gone : List Int) (run : SetRun) :
    (run.streams gone).flatten = run.pending gone := by
  rw [streams, List.flatten_append, List.flatten_singleton, pending, Strand.allPending]

structure Ordered (gone : List Int) (run : SetRun) : Prop where
  removes : run.exclusion.Removes gone
  strands : Strand.Ascending gone run.strands
  dates : run.dates.Pairwise (· ≤ ·)

theorem Ordered.pairwise_streams {gone : List Int} {run : SetRun} (h : run.Ordered gone) :
    ∀ ns ∈ run.streams gone, ns.Pairwise (· ≤ ·) := by
  have hdates : (kept gone run.dates).Pairwise (· ≤ ·) := h.dates.filter _
  intro ns hns
  rcases List.mem_append.1 hns with hns | hns
  · obtain ⟨s, hs, rfl⟩ := List.mem_map.1 hns
    exact h.strands s hs
  · exact List.mem_singleton.1 hns ▸ hdates

theorem Ordered.next {gone : List Int} {run run' : SetRun} {n : Int} (h : run.Ordered gone)
    (hnext : run.next = (some n, run')) : run'.Ordered gone := by
  obtain ⟨htaken, hx, hdates⟩ := next_takesLeast h.removes hnext
  refine ⟨hx, fun s hs => ?_, h.dates.sublist hdates.sublist⟩
  have hstream : s.pending gone ∈ run'.streams gone :=
    List.mem_append_left _ (List.mem_map_of_mem hs)
  obtain ⟨ms, hms, hsuffix⟩ := htaken.exists_suffix _ hstream
  exact (h.pairwise_streams ms hms).sublist hsuffix.sublist

theorem le_of_noneEarlier {n : Int} {streams : List (List Int)} (h : NoneEarlier n streams)
    (hasc : ∀ ns ∈ streams, ns.Pairwise (· ≤ ·)) : ∀ m ∈ streams.flatten, n ≤ m := by
  intro m hm
  obtain ⟨ns, hns, hmem⟩ := List.mem_flatten.1 hm
  have hpair := hasc ns hns
  cases ns with
  | nil => simp at hmem
  | cons k ks =>
    have hk : n ≤ k := h _ hns k rfl
    rcases List.mem_cons.1 hmem with rfl | hmem
    · exact hk
    · exact Int.le_trans hk ((List.pairwise_cons.1 hpair).1 m hmem)

theorem toList_perm {gone : List Int} {run : SetRun} (h : run.exclusion.Removes gone) :
    (toList run).Perm (run.pending gone) := by
  rw [← flatten_streams]
  induction run using Supply.induction with
  | ended run run' hnext =>
    rw [toList_of_none hnext, List.flatten_eq_nil_iff.2 (empty_of_next_eq_none h hnext)]
  | given run n run' hnext ih =>
    obtain ⟨htaken, hx, -⟩ := next_takesLeast h hnext
    rw [toList_of_some hnext]
    exact ((ih hx).cons n).trans htaken.flatten_perm.symm

theorem toList_ascending {gone : List Int} {run : SetRun} (h : run.Ordered gone) :
    (toList run).Pairwise (· ≤ ·) := by
  induction run using Supply.induction with
  | ended run run' hnext =>
    rw [toList_of_none hnext]
    exact List.Pairwise.nil
  | given run n run' hnext ih =>
    obtain ⟨htaken, hx, -⟩ := next_takesLeast h.removes hnext
    have hordered := h.next hnext
    rw [toList_of_some hnext]
    apply List.pairwise_cons.2
    refine ⟨fun m hm => le_of_noneEarlier htaken.least h.pairwise_streams m ?_, ih hordered⟩
    apply htaken.flatten_perm.mem_iff.2
    rw [flatten_streams]
    exact List.mem_cons_of_mem n ((toList_perm hx).mem_iff.1 hm)

end SetRun

end Almanac
