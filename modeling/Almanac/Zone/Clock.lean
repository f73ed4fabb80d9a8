import Almanac.Calendar.Moment

/-!
The clock of a zone: how far it is ahead of UTC, and the seconds at which that changes, as a search
tree. A wall clock is read back through `readings`. Main statements: `mem_readings`, which says that
it lists exactly the seconds that show the wall clock, and `readings_ascending`.
-/

namespace Almanac

structure Offset where
  seconds : Int
  bounded : -86400 < seconds ∧ seconds < 86400 := by decide
deriving DecidableEq

namespace Offset

def ofSeconds? (n : Int) : Option Offset :=
  if h : -86400 < n ∧ n < 86400 then some ⟨n, h⟩ else none

end Offset

structure OffsetChange where
  second : Int
  offset : Offset
deriving DecidableEq

inductive Clock
  | steady (offset : Offset)
  /-- One clock until a UTC second, and another from that second on. -/
  | change (before : Clock) (second : Int) (after : Clock)
deriving DecidableEq

namespace Clock

def ofChanges (first : Offset) (changes : List OffsetChange) : Clock :=
  match _h : changes.drop (changes.length / 2) with
  | [] => steady first
  | c :: after =>
    change (ofChanges first (changes.take (changes.length / 2))) c.second
      (ofChanges c.offset after)
termination_by changes.length
decreasing_by
  all_goals
    have := congrArg List.length _h
    simp only [List.length_drop, List.length_cons] at this
    first | omega | (rw [List.length_take]; omega)

def offsetAt : Clock → Int → Offset
  | steady o, _ => o
  | change before second after, n => if n < second then before.offsetAt n else after.offsetAt n

def shownAt (c : Clock) (n : Int) : DateTime :=
  DateTime.ofSeconds (n + (c.offsetAt n).seconds)

/-- Every UTC second at which the clock is `wall` seconds after the start of 1970, earliest first.
Changes that are a day or more away play no part. -/
def readings (wall : Int) : Clock → List Int
  | steady o => [wall - o.seconds]
  | change before second after =>
    (if second + 86400 ≤ wall then []
      else (before.readings wall).filter fun n => decide (n < second))
      ++ if wall + 86400 ≤ second then []
        else (after.readings wall).filter fun n => decide (second ≤ n)

def readingOf? (wall : Int) (c : Clock) : Option Int :=
  match c.readings wall with
  | [n] => some n
  | _ => none

theorem mem_readings {wall n : Int} {c : Clock} :
    n ∈ c.readings wall ↔ n + (c.offsetAt n).seconds = wall := by
  induction c with
  | steady o =>
    simp only [readings, offsetAt, List.mem_singleton]
    omega
  | change before second after ihb iha =>
    have hb : n ∈ (if second + 86400 ≤ wall then []
        else (before.readings wall).filter fun n => decide (n < second))
          ↔ n ∈ before.readings wall ∧ n < second := by
      split
      · refine iff_of_false List.not_mem_nil fun ⟨hm, hn⟩ => ?_
        have := (before.offsetAt n).bounded
        have := ihb.1 hm
        omega
      · simp
    have ha : n ∈ (if wall + 86400 ≤ second then []
        else (after.readings wall).filter fun n => decide (second ≤ n))
          ↔ n ∈ after.readings wall ∧ second ≤ n := by
      split
      · refine iff_of_false List.not_mem_nil fun ⟨hm, hn⟩ => ?_
        have := (after.offsetAt n).bounded
        have := iha.1 hm
        omega
      · simp
    rw [readings, List.mem_append, hb, ha, ihb, iha, offsetAt]
    split
    · next hn =>
      have : ¬second ≤ n := by omega
      simp [hn, this]
    · next hn =>
      have : second ≤ n := by omega
      simp [hn, this]

theorem readings_pairwise (wall : Int) (c : Clock) : (c.readings wall).Pairwise (· < ·) := by
  induction c with
  | steady o => simp [readings]
  | change before second after ihb iha =>
    simp only [readings]
    refine List.pairwise_append.2 ⟨?_, ?_, ?_⟩
    · split
      · exact List.Pairwise.nil
      · exact ihb.filter _
    · split
      · exact List.Pairwise.nil
      · exact iha.filter _
    · intro m hm n hn
      have hm : m < second := by
        split at hm
        · simp at hm
        · simpa using (List.mem_filter.1 hm).2
      have hn : second ≤ n := by
        split at hn
        · simp at hn
        · simpa using (List.mem_filter.1 hn).2
      omega

end Clock

end Almanac
