import Almanac.Proofs.Cursor.Rising
import Mathlib.Data.List.Basic

/-! Running maxima. The instants that a cursor keeps are those that are later than all before them,
and so they go up whatever the list is. -/

namespace Almanac

variable {α : Type} [LinearOrder α] {ns : List α} {n m l : α}

instance lawfulOrderMax : Std.LawfulOrderMax α where
  max_eq_or := max_choice
  max_le_iff _ _ _ := max_le_iff

/-- The members of a list that are later than all that stand before them. -/
def runningMaxima (ns : List α) : List α :=
  (List.range ns.length).filterMap fun i => ns[i]?.filter fun n => (ns.take i).all (· < n)

theorem runningMaxima_concat (ns : List α) (n : α) :
    runningMaxima (ns ++ [n]) = runningMaxima ns ++ if ns.all (· < n) then [n] else [] := by
  have hbefore : ∀ i ∈ List.range ns.length,
      ((ns ++ [n])[i]?.filter fun m => ((ns ++ [n]).take i).all (· < m)) =
        ns[i]?.filter fun m => (ns.take i).all (· < m) := by
    intro i hi
    have hlt : i < ns.length := List.mem_range.1 hi
    rw [List.getElem?_append_left hlt, List.take_append_of_le_length (Nat.le_of_lt hlt)]
  rw [runningMaxima, List.length_append, List.length_singleton, List.range_succ,
    List.filterMap_append, List.filterMap_congr hbefore, runningMaxima]
  congr 1
  rw [List.filterMap_cons, List.getElem?_concat_length, List.take_left, Option.filter_some]
  cases ns.all (· < n) <;> rfl

theorem runningMaxima_of_lt (h : ∀ m ∈ ns, m < n) :
    runningMaxima (ns ++ [n]) = runningMaxima ns ++ [n] := by
  rw [runningMaxima_concat, if_pos (by simpa using h)]

theorem runningMaxima_of_le (hm : m ∈ ns) (h : n ≤ m) :
    runningMaxima (ns ++ [n]) = runningMaxima ns := by
  have hnot : ¬ns.all (· < n) = true := by
    intro hall
    have hlt : m < n := by simpa using List.all_eq_true.1 hall m hm
    exact not_lt_of_ge h hlt
  rw [runningMaxima_concat, if_neg hnot, List.append_nil]

theorem max?_concat_of_lt (h : ∀ m ∈ ns, m < n) : (ns ++ [n]).max? = some n := by
  refine List.max?_eq_some_iff.2 ⟨List.mem_append_right _ List.mem_cons_self, ?_⟩
  exact List.forall_mem_append.2 ⟨fun m hm => le_of_lt (h m hm),
    List.forall_mem_singleton.2 (le_refl n)⟩

theorem max?_concat_of_le (hl : ns.max? = some l) (h : n ≤ l) :
    (ns ++ [n]).max? = some l := by
  obtain ⟨hmem, hall⟩ := List.max?_eq_some_iff.1 hl
  refine List.max?_eq_some_iff.2 ⟨List.mem_append_left _ hmem, ?_⟩
  exact List.forall_mem_append.2 ⟨hall, List.forall_mem_singleton.2 h⟩

theorem lt_of_not_any_max? (h : ¬ns.max?.any (n ≤ ·) = true) : ∀ m ∈ ns, m < n := by
  intro m hm
  cases hmax : ns.max? with
  | none => simp [List.max?_eq_none_iff.1 hmax] at hm
  | some l =>
    have hml : m ≤ l := (List.max?_eq_some_iff.1 hmax).2 m hm
    have hln : l < n := by simpa [hmax] using h
    exact lt_of_le_of_lt hml hln

theorem runningMaxima_append (ns ms : List α) :
    runningMaxima (ns ++ ms) = runningMaxima ns ++ Cursor.rising ns.max? ms := by
  -- each of `ms` in turn joins the instants that have passed, and may become their maximum
  induction ms generalizing ns with
  | nil => rw [Cursor.rising, List.append_nil, List.append_nil]
  | cons m ms ih =>
    rw [List.append_cons, ih]
    by_cases h : ns.max?.any (m ≤ ·) = true
    · obtain ⟨l, hl, hm⟩ := Cursor.exists_of_any_le h
      rw [Cursor.rising_cons_of_le ms h, max?_concat_of_le hl hm, hl,
        runningMaxima_of_le (List.max?_eq_some_iff.1 hl).1 hm]
    · have hlater := lt_of_not_any_max? h
      rw [Cursor.rising_cons_of_lt ms h, max?_concat_of_lt hlater, runningMaxima_of_lt hlater,
        List.append_assoc, List.singleton_append]

theorem pairwise_runningMaxima (ns : List α) : (runningMaxima ns).Pairwise (· < ·) := by
  have hrising : runningMaxima ns = Cursor.rising none ns := runningMaxima_append [] ns
  rw [hrising]
  exact Cursor.pairwise_rising none ns

example : runningMaxima [3, 1, 3, 5, 4] = [(3 : Int), 5] := by decide

end Almanac
