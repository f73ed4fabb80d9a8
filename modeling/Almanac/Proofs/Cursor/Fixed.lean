import Almanac.Cursor.Basic
import Almanac.Proofs.Ascending
import Almanac.Proofs.Calendar.Moment

/-! Cursors over a list of values. They hand out the values of the list in order, repeats
included. -/

namespace Almanac

namespace Moment

theorem pairwise_sorted (vs : List Moment) : (sorted vs).Pairwise (· ≤ ·) :=
  pairwise_mergeSort_decide (r := (· ≤ ·)) (fun _ _ _ => le_trans) le_total vs

theorem sorted_perm (vs : List Moment) : (sorted vs).Perm vs :=
  List.mergeSort_perm vs _

theorem mem_sorted {vs : List Moment} {v : Moment} : v ∈ sorted vs ↔ v ∈ vs :=
  (sorted_perm vs).mem_iff

theorem sorted_eq_of_perm {vs ws : List Moment} (h : vs.Perm ws) (hws : ws.Pairwise (· ≤ ·)) :
    sorted vs = ws :=
  List.Perm.eq_of_pairwise (fun _ _ _ _ => le_antisymm) (pairwise_sorted vs) hws
    ((sorted_perm vs).trans h)

end Moment

namespace FixedCursor

/-- The value that is handed out after `k` others. -/
def nth? (c : FixedCursor) : Nat → Option Moment
  | 0 => (OccurrenceCursor.next c).1
  | k + 1 => nth? (OccurrenceCursor.next c).2 k

theorem nth?_eq (c : FixedCursor) (k : Nat) : c.nth? k = c.values[k]? := by
  induction k generalizing c with
  | zero => exact List.head?_eq_getElem? ..
  | succ k ih =>
    rw [nth?, ih]
    exact List.getElem?_tail ..

end FixedCursor

end Almanac
