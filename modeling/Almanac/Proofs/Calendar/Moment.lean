import Almanac.Calendar.Moment

/-! Values on the timeline. They are ordered by it, and at midnight the whole day comes first. -/

namespace Almanac.Moment

theorem le_iff {a b : Moment} :
    a ≤ b ↔ a.second < b.second ∨ a.second = b.second ∧ a.rank ≤ b.rank := by
  show ((compare a.second b.second).then (compare a.rank b.rank)).isLE = true ↔ _
  rcases Int.lt_trichotomy a.second b.second with h | h | h
  · simp [Int.compare_eq_lt.2 h, h]
  · simp [h, Nat.isLE_compare]
  · simp [Int.compare_eq_gt.2 h, Int.not_lt.2 (Int.le_of_lt h), Int.ne_of_gt h]

theorem le_total (a b : Moment) : a ≤ b ∨ b ≤ a := by
  rw [le_iff, le_iff]
  omega

theorem le_refl (a : Moment) : a ≤ a :=
  (le_total a a).elim id id

theorem le_trans {a b c : Moment} (h : a ≤ b) (h' : b ≤ c) : a ≤ c := by
  rw [le_iff] at *
  omega

theorem timeline_inj {a b : Moment} (h : a.timeline = b.timeline) (hrank : a.rank = b.rank) :
    a = b := by
  cases a with
  | wholeDay d =>
    cases b with
    | wholeDay e => exact congrArg wholeDay (congrArg DateTime.date h)
    | timed t => exact absurd hrank Nat.zero_ne_one
  | timed t =>
    cases b with
    | wholeDay e => exact absurd hrank Nat.one_ne_zero
    | timed u => exact congrArg timed h

theorem le_antisymm {a b : Moment} (h : a ≤ b) (h' : b ≤ a) : a = b := by
  rw [le_iff] at *
  exact timeline_inj (DateTime.toSeconds_inj (by omega : a.second = b.second)) (by omega)

theorem not_precedes_of_le {a b : Moment} (h : a ≤ b) : ¬b.Precedes a := by
  rw [le_iff] at h
  unfold Precedes
  omega

theorem rank_eq_of_isWholeDay_eq {a b : Moment} (h : a.isWholeDay = b.isWholeDay) :
    a.rank = b.rank := by
  cases a <;> cases b <;> first | rfl | exact nomatch h

theorem rank_le_of_isWholeDay {a b : Moment} (h : b.isWholeDay = true → a.isWholeDay = true) :
    a.rank ≤ b.rank := by
  cases a with
  | wholeDay d => exact Nat.zero_le _
  | timed t =>
    cases b with
    | wholeDay e => exact absurd (h rfl) Bool.false_ne_true
    | timed u => exact Nat.le_refl 1

theorem le_iff_of_isWholeDay_eq {a b : Moment} (h : a.isWholeDay = b.isWholeDay) :
    a ≤ b ↔ a.second ≤ b.second := by
  have hrank := rank_eq_of_isWholeDay_eq h
  rw [le_iff]
  omega

theorem isWholeDay_ofSecond (n : Int) (wholeDay : Bool) :
    (ofSecond n wholeDay).isWholeDay = wholeDay := by
  cases wholeDay <;> rfl

theorem second_wholeDay (d : Date) : (wholeDay d).second = 86400 * d.dayNumber :=
  DateTime.toSeconds_midnight d

theorem second_timed (t : DateTime) :
    (timed t).second = 86400 * t.date.dayNumber + t.time.toSeconds :=
  rfl

theorem second_ofSecond (n : Int) (wholeDay : Bool) :
    (ofSecond n wholeDay).second = if wholeDay then 86400 * (n / 86400) else n := by
  cases wholeDay with
  | false => exact DateTime.toSeconds_ofSeconds n
  | true =>
    show (Moment.wholeDay (DateTime.ofSeconds n).date).second = _
    rw [second_wholeDay, DateTime.ofSeconds, Date.dayNumber_ofDayNumber, if_pos rfl]

theorem ofSecond_eq_wholeDay_iff {n : Int} {wholeDay : Bool} {d : Date} :
    ofSecond n wholeDay = .wholeDay d ↔ wholeDay = true ∧ (DateTime.ofSeconds n).date = d := by
  cases wholeDay <;> simp [ofSecond]

theorem ofSecond_eq_timed_iff {n : Int} {wholeDay : Bool} {t : DateTime} :
    ofSecond n wholeDay = .timed t ↔ wholeDay = false ∧ DateTime.ofSeconds n = t := by
  cases wholeDay <;> simp [ofSecond]

end Almanac.Moment
