import Almanac.Proofs.Calendar.Order
import Almanac.Proofs.Line.DateForms
import Almanac.Proofs.Text.Order
import Mathlib.Data.List.Lex

/-! The text of a value says which value it is. No two values have the same text; a text of a plain
year is read back as the value, and such texts are in the order of the values; and a text of any
other year is refused: `toString_faithful`. -/

namespace Almanac

open Text (writePadded length_writePadded isDigit_of_mem_writePadded)

theorem readSigned?_writeYear (y : Int) : Text.readSigned? (writeYear y) = some y := by
  unfold writeYear
  split
  · next hplain =>
    rw [Text.readSigned?_of_digits fun _ => Text.isDigit_of_mem_writePadded,
      Text.readDigits?_writePadded, Option.map_some, Int.ofNat_eq_natCast,
      Int.toNat_of_nonneg hplain.1]
  · split
    · next hnegative =>
      rw [Text.readSigned?, Text.readDigits?_writePadded, Option.map_some]
      congr 1
      simp only [Int.ofNat_eq_natCast]
      omega
    · next hpositive =>
      rw [Text.readSigned?, Text.readDigits?_writePadded, Option.map_some]
      congr 1
      simp only [Int.ofNat_eq_natCast]
      omega

theorem writeYear_injective : Function.Injective writeYear := by
  intro y z h
  have hread : some y = some z := by
    rw [← readSigned?_writeYear y, ← readSigned?_writeYear z, h]
  exact Option.some.inj hread

namespace Date

theorem length_writePadded_month (d : Date) : (writePadded 2 d.month).length = 2 := by
  obtain ⟨-, hmonth, -, -⟩ := d.isDay
  exact length_writePadded (by decide) (by omega)

theorem length_writePadded_day (d : Date) : (writePadded 2 d.day).length = 2 := by
  obtain ⟨-, -, -, hday⟩ := d.isDay
  have hlast := daysInMonth_le d.year d.month
  exact length_writePadded (by decide) (by omega)

theorem basic_injective : Function.Injective basic := by
  intro d e h
  obtain ⟨hyearMonth, hday⟩ := List.append_inj' h
    (d.length_writePadded_day.trans e.length_writePadded_day.symm)
  obtain ⟨hyear, hmonth⟩ := List.append_inj' hyearMonth
    (d.length_writePadded_month.trans e.length_writePadded_month.symm)
  exact Date.ext (writeYear_injective hyear) (Text.writePadded_injective 2 hmonth)
    (Text.writePadded_injective 2 hday)

theorem basic_of_plainYear {d : Date} (h : d.HasPlainYear) :
    d.basic = writePadded 4 d.year.toNat ++ (writePadded 2 d.month ++ writePadded 2 d.day) := by
  have hyear : writeYear d.year = writePadded 4 d.year.toNat := if_pos h
  rw [basic, hyear, List.append_assoc]

theorem basic_lt {d e : Date} (hd : d.HasPlainYear) (he : e.HasPlainYear)
    (h : d.dayNumber < e.dayNumber) : d.basic < e.basic := by
  obtain ⟨hd₀, hd₁⟩ := hd
  obtain ⟨he₀, he₁⟩ := he
  obtain ⟨-, hmonth, -, hday⟩ := e.isDay
  have hlast := daysInMonth_le e.year e.month
  have hlength : (writePadded 4 d.year.toNat).length = (writePadded 4 e.year.toNat).length := by
    rw [length_writePadded (by decide) (by omega), length_writePadded (by decide) (by omega)]
  rw [basic_of_plainYear ⟨hd₀, hd₁⟩, basic_of_plainYear ⟨he₀, he₁⟩]
  rcases dayNumber_lt_iff.1 h with hyear | ⟨hyear, hmonth' | ⟨hmonth', hday'⟩⟩
  · exact Text.append_lt_append hlength
      (Text.writePadded_lt (by decide) (by omega) (by omega)) _ _
  · rw [hyear]
    refine List.Lex.append_left _ (Text.append_lt_append ?_ ?_ _ _) _
    · exact d.length_writePadded_month.trans e.length_writePadded_month.symm
    · exact Text.writePadded_lt (by decide) (by omega) hmonth'
  · rw [hyear, hmonth']
    refine List.Lex.append_left _ (List.Lex.append_left _ ?_ _) _
    exact Text.writePadded_lt (by decide) (by omega) hday'

end Date

namespace TimeOfDay

theorem lengths_writePadded (t : TimeOfDay) :
    (writePadded 2 t.hour).length = 2 ∧ (writePadded 2 t.minute).length = 2 ∧
      (writePadded 2 t.second).length = 2 := by
  have hhour := t.hour_lt
  have hminute := t.minute_lt
  have hsecond := t.second_lt
  refine ⟨?_, ?_, ?_⟩ <;> exact length_writePadded (by decide) (by omega)

theorem basic_injective : Function.Injective basic := by
  intro t u h
  obtain ⟨-, htminute, htsecond⟩ := t.lengths_writePadded
  obtain ⟨-, huminute, husecond⟩ := u.lengths_writePadded
  obtain ⟨hhourMinute, hsecond⟩ := List.append_inj' h (htsecond.trans husecond.symm)
  obtain ⟨hhour, hminute⟩ := List.append_inj' hhourMinute (htminute.trans huminute.symm)
  exact TimeOfDay.ext (Text.writePadded_injective 2 hhour) (Text.writePadded_injective 2 hminute)
    (Text.writePadded_injective 2 hsecond)

theorem basic_lt {t u : TimeOfDay} (h : t.toSeconds < u.toSeconds) : t.basic < u.basic := by
  obtain ⟨hthour, htminute, -⟩ := t.lengths_writePadded
  obtain ⟨huhour, huminute, -⟩ := u.lengths_writePadded
  have := u.hour_lt
  have := u.minute_lt
  have := u.second_lt
  rw [basic, basic, List.append_assoc, List.append_assoc]
  rcases toSeconds_lt_iff.1 h with hhour | ⟨hhour, hminute | ⟨hminute, hsecond⟩⟩
  · exact Text.append_lt_append (hthour.trans huhour.symm)
      (Text.writePadded_lt (by decide) (by omega) hhour) _ _
  · rw [hhour]
    refine List.Lex.append_left _ (Text.append_lt_append (htminute.trans huminute.symm) ?_ _ _) _
    exact Text.writePadded_lt (by decide) (by omega) hminute
  · rw [hhour, hminute]
    refine List.Lex.append_left _ (List.Lex.append_left _ ?_ _) _
    exact Text.writePadded_lt (by decide) (by omega) hsecond

end TimeOfDay

namespace Moment

def clockText : Moment → List Char
  | wholeDay _ => []
  | timed t => 'T' :: (t.time.basic ++ ['Z'])

theorem written_eq (v : Moment) : v.written = v.date.basic ++ v.clockText := by
  cases v with
  | wholeDay d => exact (List.append_nil _).symm
  | timed t =>
    rw [written, DateTime.basic, List.append_assoc, List.cons_append]
    rfl

theorem cut?_written (v : Moment) :
    Text.cut? isTimeMark v.written =
      match v with
      | wholeDay _ => none
      | timed t => some (t.date.basic, t.time.basic ++ ['Z']) := by
  rw [written_eq]
  cases v with
  | wholeDay d =>
    rw [clockText, List.append_nil]
    exact Text.cut?_eq_none_iff.2 Date.isTimeMark_of_mem_basic
  | timed t => exact Text.cut?_append_cons rfl Date.isTimeMark_of_mem_basic _

theorem written_injective : Function.Injective written := by
  intro v w h
  have hcut := congrArg (Text.cut? isTimeMark) h
  rw [cut?_written, cut?_written] at hcut
  cases v with
  | wholeDay d =>
    cases w with
    | wholeDay e => exact congrArg wholeDay (Date.basic_injective h)
    | timed u => exact nomatch hcut
  | timed t =>
    cases w with
    | wholeDay e => exact nomatch hcut
    | timed u =>
      obtain ⟨hdate, htime⟩ := Prod.mk.inj (Option.some.inj hcut)
      have htime := TimeOfDay.basic_injective (List.append_cancel_right htime)
      exact congrArg timed (DateTime.ext (Date.basic_injective hdate) htime)

theorem before_of_compare {v w : Moment} (h : compare v w = .lt) :
    v.date.dayNumber < w.date.dayNumber ∨ v.date = w.date ∧ v.clockText < w.clockText := by
  rw [compare_eq_lt_iff] at h
  have hsame : v.date = w.date ↔ v.date.dayNumber = w.date.dayNumber :=
    ⟨congrArg Date.dayNumber, Date.dayNumber_inj⟩
  rw [hsame]
  cases v with
  | wholeDay d =>
    have hd := second_wholeDay d
    cases w with
    | wholeDay e =>
      have he := second_wholeDay e
      simp only [date, rank] at h ⊢
      omega
    | timed u =>
      have hu := second_timed u
      have := u.time.toSeconds_lt
      have hafter : clockText (wholeDay d) < clockText (timed u) := List.nil_lt_cons _ _
      simp only [date, hafter, and_true] at h ⊢
      omega
  | timed t =>
    have ht := second_timed t
    have := t.time.toSeconds_lt
    cases w with
    | wholeDay e =>
      have he := second_wholeDay e
      simp only [date, rank] at h ⊢
      omega
    | timed u =>
      have hu : t.toSeconds < u.toSeconds := by
        rcases h with hsecond | ⟨-, hrank⟩
        · exact hsecond
        · exact absurd hrank (Nat.lt_irrefl _)
      refine (DateTime.toSeconds_lt_iff.1 hu).imp_right fun ⟨hdate, htime⟩ => ?_
      refine ⟨congrArg Date.dayNumber hdate, List.Lex.cons ?_⟩
      have hlength : t.time.basic.length = u.time.basic.length :=
        t.time.fields_basic.1.trans u.time.fields_basic.1.symm
      exact Text.append_lt_append hlength (TimeOfDay.basic_lt htime) _ _

theorem written_lt {v w : Moment} (hv : v.date.HasPlainYear) (hw : w.date.HasPlainYear)
    (h : compare v w = .lt) : v.written < w.written := by
  rw [written_eq, written_eq]
  rcases before_of_compare h with hdate | ⟨hdate, hclock⟩
  · have hlength : v.date.basic.length = w.date.basic.length :=
      (Date.fields_basic hv).1.trans (Date.fields_basic hw).1.symm
    exact Text.append_lt_append hlength (Date.basic_lt hv hw hdate) _ _
  · rw [hdate]
    exact List.Lex.append_left _ hclock _

theorem toList_toString (v : Moment) : (toString v).toList = v.written :=
  String.toList_ofList

theorem compare_toString_of_lt {v w : Moment} (hv : v.date.HasPlainYear)
    (hw : w.date.HasPlainYear) (h : compare v w = .lt) :
    compare (toString v) (toString w) = .lt := by
  refine compareOfLessAndEq_eq_lt.2 ?_
  rw [String.lt_iff, toList_toString, toList_toString]
  exact written_lt hv hw h

theorem compare_toString {v w : Moment} (hv : v.date.HasPlainYear) (hw : w.date.HasPlainYear) :
    compare (toString v) (toString w) = compare v w := by
  cases h : compare v w with
  | lt => exact compare_toString_of_lt hv hw h
  | eq =>
    rw [compare_eq_eq_iff.1 h]
    exact Std.ReflOrd.compare_self
  | gt =>
    rw [Std.OrientedOrd.eq_swap (a := toString v),
      compare_toString_of_lt hw hv (compare_eq_gt_iff.1 h)]
    rfl

theorem toString_injective : Function.Injective (toString : Moment → String) := by
  intro v w h
  apply written_injective
  rw [← toList_toString, ← toList_toString, h]

theorem toString_of_readDate {text : String} {d : Date} (h : readDate text.toList = .ok d) :
    d.HasPlainYear ∧ toString (wholeDay d) = text := by
  obtain ⟨hplain, hbasic⟩ := readDate_eq_ok_iff.1 h
  refine ⟨hplain, ?_⟩
  rw [← String.toList_inj, toList_toString]
  exact hbasic

theorem toString_of_readDateTime {text : String} {t : DateTime} {isUtc : Bool}
    (hmark : 'T' ∈ text.toList) (hlast : text.toList.getLast? = some 'Z')
    (h : readDateTime text.toList = .ok (t, isUtc)) :
    t.date.HasPlainYear ∧ isUtc = true ∧ toString (timed t) = text := by
  obtain ⟨hplain, mark, -, htext⟩ := readDateTime_eq_ok_iff.1 h
  have hutc : isUtc = true := by
    have hne : t.time.basic ++ utcMark isUtc ≠ [] :=
      List.append_ne_nil_of_left_ne_nil (List.ne_nil_of_length_eq_add_one t.time.fields_basic.1) _
    rw [← htext, List.append_cons, List.getLast?_append_of_ne_nil _ hne] at hlast
    rw [← t.time.getLast?_basic isUtc, hlast]
    rfl
  subst hutc
  -- digits and the `Z` stand around the mark, so that the `T` of the text is the mark
  obtain rfl : mark = 'T' := by
    rw [← htext, List.mem_append, List.mem_cons, List.mem_append] at hmark
    rcases hmark with hday | hupper | htime | hutc
    · exact absurd (Date.isDigit_of_mem_basic hplain hday) (by decide)
    · exact hupper.symm
    · exact absurd (TimeOfDay.isDigit_of_mem_basic htime) (by decide)
    · exact absurd (mem_utcMark hutc) (by decide)
  refine ⟨hplain, rfl, ?_⟩
  rw [← String.toList_inj, toList_toString, written_eq]
  exact htext

theorem readDate_toString_of_not_plainYear {v : Moment} (h : ¬v.date.HasPlainYear) :
    readDate (toString v).toList = .error .invalidDate := by
  cases hread : readDate (toString v).toList with
  | error fault => rw [eq_invalidDate_of_readDate hread]
  | ok d =>
    obtain ⟨hplain, htext⟩ := toString_of_readDate hread
    obtain rfl := toString_injective htext
    exact absurd hplain h

theorem readDateTime_toString_of_not_plainYear {v : Moment} (h : ¬v.date.HasPlainYear) :
    readDateTime (toString v).toList =
      .error (if v.isWholeDay then .invalidDateTime else .invalidDate) := by
  rw [toList_toString, readDateTime, cut?_written]
  cases v with
  | wholeDay d => rfl
  | timed t =>
    have hday : readDate t.date.basic = .error .invalidDate := by
      have hread := readDate_toString_of_not_plainYear (v := wholeDay t.date) h
      rwa [toList_toString] at hread
    dsimp only
    rw [hday]
    rfl

/-- No two values have the same text. The text of a plain year is read back as the value that it was
written from, and is the only text with an upper-case mark and a `Z` that is read so; texts of plain
years are ordered as the values are. The text of any other year is read neither as a day nor as a
date-time. -/
theorem toString_faithful :
    (∀ v w : Moment, toString v = toString w → v = w) ∧
    (∀ d : Date, d.HasPlainYear → readDate (toString (wholeDay d)).toList = .ok d) ∧
    (∀ t : DateTime, t.date.HasPlainYear →
      readDateTime (toString (timed t)).toList = .ok (t, true)) ∧
    (∀ (text : String) (d : Date), readDate text.toList = .ok d → toString (wholeDay d) = text) ∧
    (∀ (text : String) (t : DateTime) (isUtc : Bool), 'T' ∈ text.toList →
      text.toList.getLast? = some 'Z' → readDateTime text.toList = .ok (t, isUtc) →
        toString (timed t) = text) ∧
    (∀ v w : Moment, v.date.HasPlainYear → w.date.HasPlainYear →
      compare (toString v) (toString w) = compare v w) ∧
    ∀ v : Moment, ¬v.date.HasPlainYear →
      readDate (toString v).toList = .error .invalidDate ∧
        readDateTime (toString v).toList =
          .error (if v.isWholeDay then .invalidDateTime else .invalidDate) := by
  refine ⟨fun _ _ h => toString_injective h, ?day, ?second, ?onlyDay, ?onlySecond,
    fun _ _ => compare_toString, ?refused⟩
  case day =>
    intro d hplain
    rw [toList_toString]
    exact readDate_basic hplain
  case second =>
    intro t hplain
    rw [toList_toString]
    exact readDateTime_basic hplain
  case onlyDay =>
    intro text d hread
    exact (toString_of_readDate hread).2
  case onlySecond =>
    intro text t isUtc hmark hlast hread
    exact (toString_of_readDateTime hmark hlast hread).2.2
  case refused =>
    intro v hyear
    exact ⟨readDate_toString_of_not_plainYear hyear, readDateTime_toString_of_not_plainYear hyear⟩

/-- A leap day, its midnight, and a second before the year 0. -/
theorem toString_faithful_leapDay :
    let day : Date := ⟨2024, 2, 29, by decide⟩
    let midnight : DateTime := DateTime.midnight day
    let early : DateTime := ⟨⟨-5, 12, 31, by decide⟩, TimeOfDay.midnight⟩
    day.HasPlainYear ∧ readDate "20240229".toList = .ok day ∧
      toString (wholeDay day) = "20240229" ∧
      readDateTime "20240229T000000Z".toList = .ok (midnight, true) ∧
      toString (timed midnight) = "20240229T000000Z" ∧
      compare "20240229" "20240229T000000Z" = compare (wholeDay day) (timed midnight) ∧
      ¬early.date.HasPlainYear ∧
      readDateTime "-00051231T000000Z".toList = .error .invalidDate := by
  intro day midnight early
  obtain ⟨-, hday, hsecond, honlyDay, honlySecond, horder, hrefused⟩ := toString_faithful
  have hplain : day.HasPlainYear := by decide
  have hdayText : toString (wholeDay day) = "20240229" := by decide +kernel
  have hsecondText : toString (timed midnight) = "20240229T000000Z" := by decide +kernel
  have hearlyText : toString (timed early) = "-00051231T000000Z" := by decide +kernel
  have hread : readDate "20240229".toList = .ok day := hdayText ▸ hday day hplain
  have hreadTime : readDateTime "20240229T000000Z".toList = .ok (midnight, true) :=
    hsecondText ▸ hsecond midnight hplain
  have hearly : ¬early.date.HasPlainYear := by decide
  refine ⟨hplain, hread, honlyDay _ day hread, hreadTime,
    honlySecond _ midnight true (by decide +kernel) (by decide +kernel) hreadTime, ?_, hearly, ?_⟩
  · rw [← hdayText, ← hsecondText]
    exact horder _ _ hplain hplain
  · rw [← hearlyText]
    exact (hrefused (timed early) hearly).2

end Moment

end Almanac
