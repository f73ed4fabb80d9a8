import Almanac.Proofs.RecurrenceSet.Occurrences

/-! What rises in the run of a recurrence set whose rules may go back. An instant rises in the run
if and only if it rises in one of the streams that are merged, so that neither the order of the
streams nor their number shows: `mem_rising_toList_iff`. -/

namespace Almanac

open Supply (toList toList_of_some toList_of_none)

namespace Cursor

theorem mem_rising_of_le_head {last : Option Int} {ns : List Int} {m i : Int}
    (hlast : ∀ l, last = some l → l < m) (hhead : ∀ k, ns.head? = some k → m ≤ k) (hi : i ≠ m) :
    i ∈ rising last ns ↔ i ∈ rising (some m) ns := by
  cases ns with
  | nil => exact Iff.rfl
  | cons k ks =>
    have hmk : m ≤ k := hhead k rfl
    have hnew : ¬last.any (k ≤ ·) = true := by
      intro hany
      obtain ⟨l, hl, hkl⟩ := exists_of_any_le hany
      have := hlast l hl
      omega
    rw [rising_cons_of_lt ks hnew]
    rcases Int.lt_or_eq_of_le hmk with hlt | rfl
    · rw [rising_cons_of_lt ks (by simpa using hlt)]
    · rw [rising_cons_of_le ks (by simp), List.mem_cons]
      exact or_iff_right hi

end Cursor

def Rises (last : Option Int) (streams : List (List Int)) (i : Int) : Prop :=
  ∃ ns ∈ streams, i ∈ Cursor.rising last ns

theorem rises_middle {last : Option Int} {ns : List Int} {left right : List (List Int)} {i : Int} :
    Rises last (left ++ ns :: right) i ↔
      i ∈ Cursor.rising last ns ∨ Rises last (left ++ right) i := by
  unfold Rises
  simp only [List.mem_append, List.mem_cons]
  grind

namespace TakesLeast

open Cursor (rising)

variable {n i : Int} {last : Option Int} {streams after : List (List Int)}

theorem rises_of_le (h : TakesLeast n streams after) (hn : last.any (n ≤ ·) = true) :
    Rises last streams i ↔ Rises last after i := by
  obtain ⟨left, rest, right, rfl, rfl⟩ := h.taken
  rw [rises_middle, rises_middle, Cursor.rising_cons_of_le rest hn]

theorem rises_of_lt (h : TakesLeast n streams after) (hn : ¬last.any (n ≤ ·) = true) :
    Rises last streams i ↔ i = n ∨ Rises (some n) after i := by
  have hlast : ∀ l, last = some l → l < n := by
    intro l hl
    simpa [hl] using hn
  obtain ⟨left, rest, right, rfl, rfl⟩ := h.taken
  have hothers (hi : i ≠ n) : Rises last (left ++ right) i ↔ Rises (some n) (left ++ right) i := by
    have hstream : ∀ ns ∈ left ++ right, i ∈ rising last ns ↔ i ∈ rising (some n) ns := by
      intro ns hns
      have hmem : ns ∈ left ++ (n :: rest) :: right := by
        rcases List.mem_append.1 hns with hns | hns
        · exact List.mem_append_left _ hns
        · exact List.mem_append_right _ (List.mem_cons_of_mem _ hns)
      exact Cursor.mem_rising_of_le_head hlast (h.least ns hmem) hi
    exact exists_congr fun ns => and_congr_right (hstream ns)
  rw [rises_middle, rises_middle, Cursor.rising_cons_of_lt rest hn, List.mem_cons]
  by_cases hi : i = n
  · simp only [hi, true_or]
  · rw [hothers hi, or_assoc]

end TakesLeast

theorem rises_of_empty {last : Option Int} {streams : List (List Int)} {i : Int}
    (h : ∀ ns ∈ streams, ns = []) : ¬Rises last streams i := by
  rintro ⟨ns, hns, hi⟩
  rw [h ns hns] at hi
  simp [Cursor.rising] at hi

theorem SetRun.mem_rising_toList_iff {gone : List Int} {run : SetRun} {last : Option Int} {i : Int}
    (h : run.exclusion.Removes gone) :
    i ∈ Cursor.rising last (toList run) ↔ Rises last (run.streams gone) i := by
  -- the last instant that was kept changes along the run, and every stream is judged by it
  induction run using Supply.induction generalizing last with
  | ended run run' hnext =>
    have hempty : ¬Rises last (run.streams gone) i := rises_of_empty (empty_of_next_eq_none h hnext)
    rw [toList_of_none hnext]
    simp only [Cursor.rising, List.not_mem_nil, hempty]
  | given run n run' hnext ih =>
    obtain ⟨htaken, hx, -⟩ := next_takesLeast h hnext
    rw [toList_of_some hnext]
    by_cases hn : last.any (n ≤ ·) = true
    · rw [Cursor.rising_cons_of_le _ hn, ih hx, htaken.rises_of_le hn]
    · rw [Cursor.rising_cons_of_lt _ hn, List.mem_cons, ih hx, htaken.rises_of_lt hn]

/-- What rises in the run of a set: what rises in a rule among the instants that are not taken away,
and the dates that are not taken away. -/
theorem RecurrenceSet.mem_rising_toList_iff {s : RecurrenceSet} {i : Int}
    (h : ∀ r ∈ s.exclusionRules, (s.expand r).Pairwise (· ≤ ·)) :
    i ∈ Cursor.rising none (toList (SetRun.ofSet s)) ↔
      (∃ r ∈ s.rules, i ∈ Cursor.rising none (kept s.removed (s.expand r))) ∨
        i ∈ s.dates ∧ i ∉ s.removed := by
  have hdates : i ∈ Cursor.rising none (kept s.removed (SetRun.ofSet s).dates) ↔
      i ∈ s.dates ∧ i ∉ s.removed := by
    have hsorted : (kept s.removed (SetRun.ofSet s).dates).Pairwise (· ≤ ·) :=
      (pairwise_mergeSort_le s.dates).filter _
    rw [Cursor.mem_rising_of_ascending hsorted, mem_kept, SetRun.ofSet, List.mem_mergeSort]
  have hfresh (r : Rule) : Strand.pending s.removed ⟨Expansion.ofRule r s.zone s.start, none⟩ =
      kept s.removed (s.expand r) := by
    rw [Strand.pending_of_none rfl, expand]
  have hrules : (SetRun.ofSet s).strands.map (Strand.pending s.removed) =
      s.rules.map fun r => kept s.removed (s.expand r) := by
    rw [SetRun.ofSet, List.map_map]
    apply List.map_congr_left
    intro r _
    rw [Function.comp_apply, hfresh]
  rw [SetRun.mem_rising_toList_iff (removes_ofSet h), SetRun.streams, hrules, rises_middle, hdates,
    List.append_nil, or_comm]
  simp only [Rises, List.mem_map, exists_exists_and_eq_and]

end Almanac
