import Almanac.Proofs.Ascending
import Almanac.Proofs.RecurrenceSet.Merge
import Almanac.Proofs.Cursor.Rising
import Mathlib

/-! What a recurrence set stands for: the instants that its rules and dates add, less those that its
exclusion rules and dates take away. Main statement: `rising_toList`, by which running through the
set and dropping repeats gives these instants in increasing order. -/

namespace Almanac

open Supply (toList)

namespace RecurrenceSet

def expand (s : RecurrenceSet) (r : Rule) : List Int :=
  toList (Expansion.ofRule r s.zone s.start)

def added (s : RecurrenceSet) : List Int :=
  s.rules.flatMap s.expand ++ s.dates

def removed (s : RecurrenceSet) : List Int :=
  s.exclusionRules.flatMap s.expand ++ s.exclusionDates

def occurrences (s : RecurrenceSet) : Finset Int :=
  s.added.toFinset \ s.removed.toFinset

theorem mem_occurrences {s : RecurrenceSet} {n : Int} :
    n ∈ s.occurrences ↔ n ∈ s.added ∧ n ∉ s.removed := by
  rw [occurrences, Finset.mem_sdiff, List.mem_toFinset, List.mem_toFinset]

/-- Every rule gives its instants in order, whether it adds them or takes them away. -/
def Ascending (s : RecurrenceSet) : Prop :=
  ∀ r, r ∈ s.rules ∨ r ∈ s.exclusionRules → (s.expand r).Pairwise (· ≤ ·)

theorem removes_ofSet {s : RecurrenceSet}
    (h : ∀ r ∈ s.exclusionRules, (s.expand r).Pairwise (· ≤ ·)) :
    (SetRun.ofSet s).exclusion.Removes s.removed where
  mem_iff n := by
    have hdates : n ∈ Std.TreeSet.ofList s.exclusionDates ↔ n ∈ s.exclusionDates := by
      rw [Std.TreeSet.mem_ofList, List.contains_iff_mem]
    simp only [SetRun.ofSet, removed, List.mem_append, List.mem_flatMap, List.mem_map,
      exists_exists_and_eq_and, hdates]
    exact or_comm
  ascending e he := by
    obtain ⟨r, hr, rfl⟩ := List.mem_map.1 he
    exact h r hr

theorem Ascending.removes {s : RecurrenceSet} (h : s.Ascending) :
    (SetRun.ofSet s).exclusion.Removes s.removed :=
  removes_ofSet fun r hr => h r (Or.inr hr)

theorem ordered_ofSet {s : RecurrenceSet} (h : s.Ascending) :
    (SetRun.ofSet s).Ordered s.removed where
  removes := h.removes
  strands t ht := by
    obtain ⟨r, hr, rfl⟩ := List.mem_map.1 ht
    rw [Strand.pending_of_none rfl, kept]
    exact (h r (Or.inl hr)).filter _
  dates := pairwise_mergeSort_le s.dates

theorem mem_pending_ofSet {s : RecurrenceSet} {n : Int} :
    n ∈ (SetRun.ofSet s).pending s.removed ↔ n ∈ s.occurrences := by
  have hrules : n ∈ Strand.allPending s.removed (SetRun.ofSet s).strands ↔
      n ∈ s.rules.flatMap s.expand ∧ n ∉ s.removed := by
    rw [Strand.mem_allPending, List.mem_flatMap]
    constructor
    · rintro ⟨t, ht, hn⟩
      obtain ⟨r, hr, rfl⟩ := List.mem_map.1 ht
      obtain ⟨hgiven, hkept⟩ := (Strand.mem_pending_of_none rfl).1 hn
      exact ⟨⟨r, hr, hgiven⟩, hkept⟩
    · rintro ⟨⟨r, hr, hgiven⟩, hkept⟩
      exact ⟨_, List.mem_map_of_mem hr, (Strand.mem_pending_of_none rfl).2 ⟨hgiven, hkept⟩⟩
  have hdates : n ∈ kept s.removed (SetRun.ofSet s).dates ↔ n ∈ s.dates ∧ n ∉ s.removed := by
    rw [mem_kept, SetRun.ofSet, List.mem_mergeSort]
  rw [SetRun.pending, List.mem_append, hrules, hdates, mem_occurrences, added, List.mem_append,
    or_and_right]

theorem mem_toList_ofSet {s : RecurrenceSet} (h : s.Ascending) {n : Int} :
    n ∈ toList (SetRun.ofSet s) ↔ n ∈ s.occurrences :=
  ((SetRun.toList_perm h.removes).mem_iff).trans mem_pending_ofSet

theorem rising_toList {s : RecurrenceSet} (h : s.Ascending) :
    Cursor.rising none (toList (SetRun.ofSet s)) = s.occurrences.sort := by
  have hasc := SetRun.toList_ascending (ordered_ofSet h)
  have hlt := Cursor.pairwise_rising none (toList (SetRun.ofSet s))
  have hset : (Cursor.rising none (toList (SetRun.ofSet s))).toFinset = s.occurrences := by
    ext n
    rw [List.mem_toFinset, Cursor.mem_rising_of_ascending hasc, mem_toList_ofSet h]
  -- both lists go up and hold the same instants
  rw [← hset, eq_comm, List.toFinset_sort _ (hlt.imp fun hij => Int.ne_of_lt hij)]
  exact hlt.imp fun hij => Int.le_of_lt hij

end RecurrenceSet

end Almanac
