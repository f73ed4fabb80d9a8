import Almanac.Proofs.Calendar.Instant
import Almanac.Proofs.Calendar.Moment
import Mathlib.Order.Bounds.Defs

/-! Reading an instant as a value rounds down. What is read is the latest value of its shape that does
not stand after the instant, on both sides of 1970: `ofInstant_rounds_down`. -/

namespace Almanac.Moment

theorem second_le_ofSecond_iff {v : Moment} {n : Int} :
    v.second ≤ (ofSecond n v.isWholeDay).second ↔ v.second ≤ n := by
  rw [second_ofSecond]
  cases v with
  | wholeDay d =>
    rw [second_wholeDay, isWholeDay, if_pos rfl]
    omega
  | timed t => rfl

/-- A value lies at or before what is read at an instant, in its own shape, just if it is not after
the instant. -/
theorem le_ofInstant_iff {v : Moment} {t : Instant} :
    v ≤ ofInstant t v.isWholeDay ↔ v.toInstant.sinceEpoch ≤ t.sinceEpoch := by
  rw [toInstant, Instant.sinceEpoch_ofSecond_le_iff, ofInstant,
    le_iff_of_isWholeDay_eq (isWholeDay_ofSecond _ _).symm, second_le_ofSecond_iff]

theorem isWholeDay_ofInstant (t : Instant) (wholeDay : Bool) :
    (ofInstant t wholeDay).isWholeDay = wholeDay :=
  isWholeDay_ofSecond _ _

theorem sinceEpoch_ofInstant_le (t : Instant) (wholeDay : Bool) :
    (ofInstant t wholeDay).toInstant.sinceEpoch ≤ t.sinceEpoch := by
  rw [← le_ofInstant_iff, isWholeDay_ofInstant]
  exact le_refl _

theorem isGreatest_ofInstant (t : Instant) (wholeDay : Bool) :
    IsGreatest {v : Moment | v.isWholeDay = wholeDay ∧ v.toInstant.sinceEpoch ≤ t.sinceEpoch}
      (ofInstant t wholeDay) := by
  refine ⟨⟨isWholeDay_ofInstant t wholeDay, sinceEpoch_ofInstant_le t wholeDay⟩, ?_⟩
  rintro v ⟨rfl, hv⟩
  exact le_ofInstant_iff.2 hv

theorem ofInstant_mono {t u : Instant} (h : t.sinceEpoch ≤ u.sinceEpoch) (wholeDay : Bool) :
    ofInstant t wholeDay ≤ ofInstant u wholeDay :=
  (isGreatest_ofInstant u wholeDay).2
    ⟨isWholeDay_ofInstant t wholeDay, Int.le_trans (sinceEpoch_ofInstant_le t wholeDay) h⟩

theorem ofInstant_toInstant (v : Moment) : ofInstant v.toInstant v.isWholeDay = v := by
  have hread : (ofInstant v.toInstant v.isWholeDay).second ≤ v.second :=
    Instant.sinceEpoch_ofSecond_le_iff.1 (sinceEpoch_ofInstant_le v.toInstant v.isWholeDay)
  apply le_antisymm
  · exact (le_iff_of_isWholeDay_eq (isWholeDay_ofInstant _ _)).2 hread
  · exact le_ofInstant_iff.2 (Int.le_refl _)

/-- Every number of nanoseconds since 1970, negative or not, is an instant. What is read off it is the
latest whole second, or the latest day with its midnight, that is not after it. A later instant
therefore never gives an earlier value, and the instant that a value stands for gives it back. -/
theorem ofInstant_rounds_down :
    (∀ n : Int, ∃! t : Instant, t.sinceEpoch = n) ∧
    (∀ t wholeDay,
      IsGreatest {v : Moment | v.isWholeDay = wholeDay ∧ v.toInstant.sinceEpoch ≤ t.sinceEpoch}
        (ofInstant t wholeDay)) ∧
    (∀ t u : Instant, t.sinceEpoch ≤ u.sinceEpoch →
      ∀ wholeDay, ofInstant t wholeDay ≤ ofInstant u wholeDay) ∧
    ∀ v : Moment, ofInstant v.toInstant v.isWholeDay = v :=
  ⟨Instant.existsUnique_sinceEpoch, isGreatest_ofInstant, fun _ _ => ofInstant_mono,
    ofInstant_toInstant⟩

/-- A nanosecond before a noon in the year -43, and half a second before 1970. -/
theorem ofInstant_rounds_down_early :
    let ides : Date := ⟨-43, 3, 15, by decide⟩
    let noon := timed ⟨ides, 12, 0, 0, by decide, by decide, by decide⟩
    let t := Instant.ofNanoseconds noon.second (-1)
    let u := Instant.ofNanoseconds 0 (-500000000)
    t.sinceEpoch ≤ u.sinceEpoch ∧ ofInstant t false ≤ ofInstant u false ∧
      ofInstant t true = wholeDay ides ∧ ofInstant u false = ofSecond (-1) false ∧
      ofInstant noon.toInstant noon.isWholeDay = noon := by
  intro ides noon t u
  obtain ⟨-, -, hmono, hback⟩ := ofInstant_rounds_down
  have h : t.sinceEpoch ≤ u.sinceEpoch := by decide
  exact ⟨h, hmono t u h false, by decide, rfl, hback noon⟩

end Almanac.Moment
