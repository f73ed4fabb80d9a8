import Almanac.Calendar.Written
import Almanac.Line.DateForms
import Almanac.Proofs.Except
import Almanac.Proofs.Text.Number
import Mathlib.Data.List.Basic

/-! Which texts are read as a day or a time: those that are written from it, for days of the years 0
to 9999 and for times with or without the mark of UTC, and no others. -/

namespace Almanac

open Text (digitsValue writePadded length_writePadded digitsValue_writePadded
  isDigit_of_mem_writePadded writePadded_digitsValue)

theorem fields_writePadded {k a b c : Nat} (hk : 0 < k) (ha : a < 10 ^ k) (hb : b < 100)
    (hc : c < 100) :
    let cs := writePadded k a ++ writePadded 2 b ++ writePadded 2 c
    cs.length = k + 4 ∧ cs.all Char.isDigit = true ∧ Text.digitsValue (cs.take k) = a ∧
      Text.digitsValue ((cs.drop k).take 2) = b ∧ Text.digitsValue (cs.drop (k + 2)) = c := by
  intro cs
  have hla : (writePadded k a).length = k := length_writePadded hk ha
  have hlb : (writePadded 2 b).length = 2 := length_writePadded (by decide) hb
  have hlc : (writePadded 2 c).length = 2 := length_writePadded (by decide) hc
  have hcs : cs = writePadded k a ++ (writePadded 2 b ++ writePadded 2 c) := List.append_assoc ..
  have hdrop : cs.drop k = writePadded 2 b ++ writePadded 2 c := by
    rw [hcs, List.drop_left' hla]
  refine ⟨?length, ?digits, ?first, ?second, ?third⟩
  case length =>
    rw [List.length_append, List.length_append, hla, hlb, hlc]
  case digits =>
    simp only [cs, List.all_append, Bool.and_eq_true, List.all_eq_true]
    exact ⟨⟨fun _ => isDigit_of_mem_writePadded, fun _ => isDigit_of_mem_writePadded⟩,
      fun _ => isDigit_of_mem_writePadded⟩
  case first => rw [hcs, List.take_left' hla, digitsValue_writePadded]
  case second => rw [hdrop, List.take_left' hlb, digitsValue_writePadded]
  case third => rw [← List.drop_drop, hdrop, List.drop_left' hlb, digitsValue_writePadded]

theorem writePadded_piece {cs piece : List Char} {k : Nat} (hdigits : cs.all Char.isDigit = true)
    (hpiece : piece ⊆ cs) (hlength : piece.length = k) (hk : 0 < k) :
    writePadded k (digitsValue piece) = piece := by
  have hall : ∀ c ∈ piece, c.isDigit = true := fun c hc =>
    List.all_eq_true.1 hdigits c (hpiece hc)
  rw [← hlength] at hk ⊢
  exact writePadded_digitsValue hall (List.length_pos_iff.1 hk)

theorem writePadded_fields {cs : List Char} {k : Nat} (hk : 0 < k) (hlength : cs.length = k + 4)
    (hdigits : cs.all Char.isDigit = true) :
    writePadded k (digitsValue (cs.take k)) ++ writePadded 2 (digitsValue ((cs.drop k).take 2)) ++
      writePadded 2 (digitsValue (cs.drop (k + 2))) = cs := by
  have hfirst : (cs.take k).length = k := by
    rw [List.length_take]
    omega
  have hsecond : ((cs.drop k).take 2).length = 2 := by
    rw [List.length_take, List.length_drop]
    omega
  have hthird : (cs.drop (k + 2)).length = 2 := by
    rw [List.length_drop]
    omega
  rw [writePadded_piece hdigits (List.take_subset k cs) hfirst hk,
    writePadded_piece hdigits (List.Subset.trans (List.take_subset 2 _) (List.drop_subset k cs))
      hsecond (by decide),
    writePadded_piece hdigits (List.drop_subset _ cs) hthird (by decide),
    List.append_assoc, ← List.drop_drop, List.take_append_drop, List.take_append_drop]

theorem digitsValue_take_four {cs : List Char} (hdigits : cs.all Char.isDigit = true) :
    digitsValue (cs.take 4) ≤ 9999 := by
  have hlt := Text.digitsValue_lt fun c hc =>
    List.all_eq_true.1 hdigits c (List.take_subset 4 cs hc)
  have hle : 10 ^ (cs.take 4).length ≤ 10 ^ 4 :=
    Nat.pow_le_pow_right (by decide) (List.length_take_le 4 cs)
  omega

/-- The year is written with four digits and no sign. -/
def Date.HasPlainYear (d : Date) : Prop :=
  0 ≤ d.year ∧ d.year ≤ 9999

instance (d : Date) : Decidable d.HasPlainYear :=
  inferInstanceAs (Decidable (_ ∧ _))

theorem daysInMonth_le (year : Int) (month : Nat) : daysInMonth year month ≤ 31 := by
  have := leapDays_le year
  unfold daysInMonth
  split <;> omega

theorem Date.fields_basic {d : Date} (h : d.HasPlainYear) :
    d.basic.length = 8 ∧ d.basic.all Char.isDigit = true ∧
      Text.digitsValue (d.basic.take 4) = d.year.toNat ∧
      Text.digitsValue ((d.basic.drop 4).take 2) = d.month ∧
      Text.digitsValue (d.basic.drop 6) = d.day := by
  obtain ⟨-, hmonth, -, hday⟩ := d.isDay
  obtain ⟨hfrom, hto⟩ := h
  have hdays := daysInMonth_le d.year d.month
  rw [basic, writeYear, if_pos ⟨hfrom, hto⟩]
  exact fields_writePadded (by decide) (by omega) (by omega) (by omega)

theorem TimeOfDay.fields_basic (t : TimeOfDay) :
    t.basic.length = 6 ∧ t.basic.all Char.isDigit = true ∧
      Text.digitsValue (t.basic.take 2) = t.hour ∧
      Text.digitsValue ((t.basic.drop 2).take 2) = t.minute ∧
      Text.digitsValue (t.basic.drop 4) = t.second := by
  have hhour := t.hour_lt
  have hminute := t.minute_lt
  have hsecond := t.second_lt
  exact fields_writePadded (by decide) (by omega) (by omega) (by omega)

theorem Date.isDigit_of_mem_basic {d : Date} (h : d.HasPlainYear) {c : Char} (hc : c ∈ d.basic) :
    c.isDigit = true :=
  List.all_eq_true.1 (d.fields_basic h).2.1 c hc

theorem TimeOfDay.isDigit_of_mem_basic {t : TimeOfDay} {c : Char} (hc : c ∈ t.basic) :
    c.isDigit = true :=
  List.all_eq_true.1 t.fields_basic.2.1 c hc

theorem isTimeMark_iff {c : Char} : isTimeMark c = true ↔ c = 'T' ∨ c = 't' := by
  simp [isTimeMark]

theorem isTimeMark_of_isDigit {c : Char} (h : c.isDigit = true) : isTimeMark c = false := by
  refine Bool.eq_false_iff.2 fun hmark => ?_
  rcases isTimeMark_iff.1 hmark with rfl | rfl <;> exact absurd h (by decide)

theorem mem_writeYear {y : Int} {c : Char} (h : c ∈ writeYear y) :
    c.isDigit = true ∨ c = '+' ∨ c = '-' := by
  unfold writeYear at h
  split at h
  · exact Or.inl (isDigit_of_mem_writePadded h)
  · rcases List.mem_cons.1 h with rfl | hdigits
    · split
      · exact Or.inr (Or.inr rfl)
      · exact Or.inr (Or.inl rfl)
    · exact Or.inl (isDigit_of_mem_writePadded hdigits)

theorem Date.mem_basic {d : Date} {c : Char} (h : c ∈ d.basic) :
    c.isDigit = true ∨ c = '+' ∨ c = '-' := by
  rw [basic, List.append_assoc, List.mem_append] at h
  rcases h with hyear | hrest
  · exact mem_writeYear hyear
  · rcases List.mem_append.1 hrest with hmonth | hday
    · exact Or.inl (isDigit_of_mem_writePadded hmonth)
    · exact Or.inl (isDigit_of_mem_writePadded hday)

theorem Date.isTimeMark_of_mem_basic {d : Date} : ∀ c ∈ d.basic, isTimeMark c = false := by
  intro c hc
  rcases mem_basic hc with hdigit | rfl | rfl
  · exact isTimeMark_of_isDigit hdigit
  · rfl
  · rfl

theorem readDate_basic {d : Date} (h : d.HasPlainYear) : readDate d.basic = .ok d := by
  obtain ⟨hlength, hdigits, hyear, hmonth, hday⟩ := d.fields_basic h
  have hrange : -262143 ≤ d.year ∧ d.year ≤ 262142 := by
    obtain ⟨hfrom, hto⟩ := h
    omega
  have hfields : Date.ofFields? d.year d.month d.day = some d := by
    rw [Date.ofFields?, dif_pos d.isDay, if_pos hrange]
  rw [readDate, if_pos ⟨hlength, hdigits⟩, hyear, hmonth, hday, Int.toNat_of_nonneg h.1, hfields]

theorem Date.eq_of_ofFields? {year : Int} {month day : Nat} {d : Date}
    (h : ofFields? year month day = some d) : d.year = year ∧ d.month = month ∧ d.day = day := by
  unfold ofFields? at h
  split at h
  · split at h
    · obtain rfl := Option.some.inj h
      exact ⟨rfl, rfl, rfl⟩
    · cases h
  · cases h

theorem TimeOfDay.eq_of_ofFields? {hour minute second : Nat} {t : TimeOfDay}
    (h : ofFields? hour minute second = some t) :
    t.hour = hour ∧ t.minute = minute ∧ t.second = second := by
  unfold ofFields? at h
  split at h
  · obtain rfl := Option.some.inj h
    exact ⟨rfl, rfl, rfl⟩
  · cases h

theorem readDate_eq_ok_iff {cs : List Char} {d : Date} :
    readDate cs = .ok d ↔ d.HasPlainYear ∧ d.basic = cs := by
  constructor
  · intro h
    unfold readDate at h
    split at h
    · next hform =>
      obtain ⟨hlength, hdigits⟩ := hform
      split at h
      · next date hfields =>
        obtain rfl := Except.ok.inj h
        obtain ⟨hyear, hmonth, hday⟩ := Date.eq_of_ofFields? hfields
        have hle := digitsValue_take_four hdigits
        have hplain : 0 ≤ date.year ∧ date.year ≤ 9999 := by omega
        refine ⟨hplain, ?_⟩
        rw [Date.basic, writeYear, if_pos hplain, hyear, hmonth, hday, Int.toNat_natCast]
        exact writePadded_fields (by decide) hlength hdigits
      · exact nomatch h
    · exact nomatch h
  · rintro ⟨hplain, rfl⟩
    exact readDate_basic hplain

theorem isDigit_of_readDate {cs : List Char} {d : Date} (h : readDate cs = .ok d) {c : Char}
    (hc : c ∈ cs) : c.isDigit = true := by
  obtain ⟨hplain, rfl⟩ := readDate_eq_ok_iff.1 h
  exact Date.isDigit_of_mem_basic hplain hc

theorem eq_invalidDate_of_readDate {cs : List Char} {fault : LineFault}
    (h : readDate cs = .error fault) : fault = .invalidDate := by
  unfold readDate at h
  split at h
  · split at h
    · exact nomatch h
    · exact (Except.error.inj h).symm
  · exact (Except.error.inj h).symm

def utcMark : Bool → List Char
  | true => ['Z']
  | false => []

theorem mem_utcMark {c : Char} {isUtc : Bool} (h : c ∈ utcMark isUtc) : c = 'Z' := by
  cases isUtc with
  | true => exact List.mem_singleton.1 h
  | false => exact absurd h List.not_mem_nil

theorem dropLast_append_utcMark (cs : List Char) :
    (if cs.getLast? == some 'Z' then cs.dropLast else cs) ++ utcMark (cs.getLast? == some 'Z') =
      cs := by
  cases hmark : cs.getLast? == some 'Z' with
  | true => exact List.dropLast_append_getLast? 'Z' (beq_iff_eq.1 hmark)
  | false => exact List.append_nil cs

theorem TimeOfDay.getLast?_basic (t : TimeOfDay) (isUtc : Bool) :
    ((t.basic ++ utcMark isUtc).getLast? == some 'Z') = isUtc := by
  cases isUtc with
  | true =>
    rw [utcMark, List.getLast?_concat]
    rfl
  | false =>
    rw [utcMark, List.append_nil, beq_eq_false_iff_ne]
    intro hlast
    exact absurd (isDigit_of_mem_basic (List.mem_of_getLast? hlast)) (by decide)

theorem readTime_append_utcMark (t : TimeOfDay) (isUtc : Bool) :
    readTime (t.basic ++ utcMark isUtc) = .ok (t, isUtc) := by
  obtain ⟨hlength, hdigits, hhour, hminute, hsecond⟩ := t.fields_basic
  have hfields : TimeOfDay.ofFields? t.hour t.minute t.second = some t := by
    rw [TimeOfDay.ofFields?, dif_pos ⟨t.hour_lt, t.minute_lt, t.second_lt⟩]
  have hbasic : (if isUtc then (t.basic ++ utcMark isUtc).dropLast else t.basic ++ utcMark isUtc) =
      t.basic := by
    cases isUtc with
    | true => exact List.dropLast_concat
    | false => exact List.append_nil t.basic
  simp only [readTime, t.getLast?_basic, hbasic, hlength, hdigits, and_self, if_true, hhour,
    hminute, hsecond, hfields]

theorem readTime_basic (t : TimeOfDay) : readTime (t.basic ++ ['Z']) = .ok (t, true) :=
  readTime_append_utcMark t true

theorem readTime_eq_ok_iff {cs : List Char} {t : TimeOfDay} {isUtc : Bool} :
    readTime cs = .ok (t, isUtc) ↔ t.basic ++ utcMark isUtc = cs := by
  constructor
  · intro h
    unfold readTime at h
    extract_lets mark digits at h
    have hcs : digits ++ utcMark mark = cs := dropLast_append_utcMark cs
    clear_value mark digits
    split at h
    · next hform =>
      obtain ⟨hlength, hdigits⟩ := hform
      split at h
      · next time hfields =>
        obtain ⟨rfl, rfl⟩ := Prod.mk.inj (Except.ok.inj h)
        obtain ⟨hhour, hminute, hsecond⟩ := TimeOfDay.eq_of_ofFields? hfields
        have hbasic := writePadded_fields (by decide : 0 < 2) hlength hdigits
        rw [← hhour, ← hminute, ← hsecond] at hbasic
        rw [TimeOfDay.basic, hbasic, hcs]
      · exact nomatch h
    · exact nomatch h
  · rintro rfl
    exact readTime_append_utcMark t isUtc

theorem eq_invalidTime_of_readTime {cs : List Char} {fault : LineFault}
    (h : readTime cs = .error fault) : fault = .invalidTime := by
  unfold readTime at h
  extract_lets mark digits at h
  split at h
  · split at h
    · exact nomatch h
    · exact (Except.error.inj h).symm
  · exact (Except.error.inj h).symm

theorem readDateTime_eq_ok_iff {cs : List Char} {t : DateTime} {isUtc : Bool} :
    readDateTime cs = .ok (t, isUtc) ↔
      t.date.HasPlainYear ∧ ∃ mark, isTimeMark mark = true ∧
        t.date.basic ++ mark :: (t.time.basic ++ utcMark isUtc) = cs := by
  constructor
  · intro h
    unfold readDateTime at h
    split at h
    · exact nomatch h
    · next day time hcut =>
      obtain ⟨mark, rfl, hmark, -⟩ := Text.eq_append_of_cut? hcut
      obtain ⟨d, hday, h⟩ := bind_eq_ok_iff.1 h
      obtain ⟨⟨clock, utc⟩, htime, h⟩ := bind_eq_ok_iff.1 h
      obtain ⟨rfl, rfl⟩ := Prod.mk.inj (Except.ok.inj h)
      obtain ⟨hplain, rfl⟩ := readDate_eq_ok_iff.1 hday
      obtain rfl := readTime_eq_ok_iff.1 htime
      exact ⟨hplain, mark, hmark, rfl⟩
  · rintro ⟨hplain, mark, hmark, rfl⟩
    rw [readDateTime, Text.cut?_append_cons hmark Date.isTimeMark_of_mem_basic]
    simp only [readDate_basic hplain, readTime_append_utcMark]
    rfl

theorem readDateTime_basic {t : DateTime} (h : t.date.HasPlainYear) :
    readDateTime (t.basic ++ ['Z']) = .ok (t, true) := by
  refine readDateTime_eq_ok_iff.2 ⟨h, 'T', rfl, ?_⟩
  rw [DateTime.basic, List.append_assoc]
  rfl

end Almanac
