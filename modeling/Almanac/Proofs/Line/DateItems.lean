import Almanac.Proofs.Line.DateList
import Almanac.Proofs.Line.Grammar
import Mathlib.Data.List.TakeWhile

/-! The items of date lists as they are spelled: days, date-times and periods. An item is read just
if it spells one of the form that it must have, and as what that one means: `readItem_eq_ok_iff`.
Any other is refused for what `ItemFault` says: `readItem_eq_error_iff`. -/

namespace Almanac

/-- `YYYYMMDD`. -/
structure WrittenDay where
  date : Date
  plainYear : date.HasPlainYear

/-- A day, a mark and `HHMMSS`, with a `Z` at the end for a time in UTC. -/
structure WrittenDateTime where
  day : WrittenDay
  mark : Char
  isMark : mark = 'T' ∨ mark = 't'
  time : TimeOfDay
  isUtc : Bool

/-- The end of a period: a date-time, or signs and a `P`, whatever follows. -/
inductive PeriodEnd
  | dateTime (finish : WrittenDateTime)
  | duration (signs rest : List Char) (isSign : ∀ c ∈ signs, c = '+' ∨ c = '-')

inductive WrittenItem
  | day (written : WrittenDay)
  | dateTime (written : WrittenDateTime)
  | period (start : WrittenDateTime) (finish : PeriodEnd)

inductive ItemForm
  | day
  | dateTime
  | period
deriving DecidableEq

def WrittenDay.chars (w : WrittenDay) : List Char :=
  w.date.basic

namespace WrittenDateTime

def chars (w : WrittenDateTime) : List Char :=
  w.day.chars ++ w.mark :: (w.time.basic ++ utcMark w.isUtc)

def dateTime (w : WrittenDateTime) : DateTime :=
  ⟨w.day.date, w.time⟩

def meaning (zoneId : Option String) (w : WrittenDateTime) : ListedDate :=
  if w.isUtc then .utc w.dateTime else .clock w.dateTime zoneId

end WrittenDateTime

def PeriodEnd.chars : PeriodEnd → List Char
  | dateTime finish => finish.chars
  | duration signs rest _ => signs ++ 'P' :: rest

namespace WrittenItem

def form : WrittenItem → ItemForm
  | day _ => .day
  | dateTime _ => .dateTime
  | period _ _ => .period

def chars : WrittenItem → List Char
  | day w => w.chars
  | dateTime w => w.chars
  | period start finish => start.chars ++ '/' :: finish.chars

def meaning (zoneId : Option String) : WrittenItem → ListedDate
  | day w => .day w.date
  | dateTime w => w.meaning zoneId
  | period start _ => start.meaning zoneId

end WrittenItem

def ItemForm.required (valueType : Option String) (item : List Char) : ItemForm :=
  if valueType = some "DATE" then day
  else if valueType = some "DATE-TIME" then dateTime
  else if valueType = some "PERIOD" then period
  else if 'T' ∈ item ∨ 't' ∈ item then dateTime
  else day

/-- The item spells `w`, which is of the form that it must have. -/
def WrittenItem.Spells (valueType : Option String) (item : List Char) (w : WrittenItem) : Prop :=
  w.form = .required valueType item ∧ w.chars = item

/-- Why a text is no date-time: it has no mark, no day stands before its first mark, or a day does
and no time behind it. -/
inductive DateTimeFault : List Char → LineFault → Prop
  | unmarked {item : List Char} (noMark : 'T' ∉ item ∧ 't' ∉ item) :
      DateTimeFault item .invalidDateTime
  | badDay {before after : List Char} {mark : Char} (noMark : 'T' ∉ before ∧ 't' ∉ before)
      (isMark : mark = 'T' ∨ mark = 't') (noDay : ∀ w : WrittenDay, w.chars ≠ before) :
      DateTimeFault (before ++ mark :: after) .invalidDate
  | badTime {after : List Char} {mark : Char} (day : WrittenDay)
      (isMark : mark = 'T' ∨ mark = 't')
      (noTime : ∀ (time : TimeOfDay) (isUtc : Bool), time.basic ++ utcMark isUtc ≠ after) :
      DateTimeFault (day.chars ++ mark :: after) .invalidTime

/-- Why an item spells nothing of the form that it must have. -/
inductive ItemFault (valueType : Option String) (item : List Char) : LineFault → Prop
  | day (form : ItemForm.required valueType item = .day)
      (noDay : ∀ w : WrittenDay, w.chars ≠ item) : ItemFault valueType item .invalidDate
  | dateTime {fault : LineFault} (form : ItemForm.required valueType item = .dateTime)
      (noDateTime : DateTimeFault item fault) : ItemFault valueType item fault
  | period (form : ItemForm.required valueType item = .period)
      (noPeriod : ∀ (start : WrittenDateTime) (finish : PeriodEnd),
        start.chars ++ '/' :: finish.chars ≠ item) : ItemFault valueType item .invalidPeriod

theorem forall_isTimeMark_iff {cs : List Char} :
    (∀ c ∈ cs, isTimeMark c = false) ↔ 'T' ∉ cs ∧ 't' ∉ cs := by
  simp only [← Bool.not_eq_true, isTimeMark_iff, not_or]
  constructor
  · intro h
    exact ⟨fun hmem => (h 'T' hmem).1 rfl, fun hmem => (h 't' hmem).2 rfl⟩
  · rintro ⟨hupper, hlower⟩ c hc
    exact ⟨fun he => hupper (he ▸ hc), fun he => hlower (he ▸ hc)⟩

namespace WrittenDay

theorem readDate_eq_ok_iff {cs : List Char} {d : Date} :
    readDate cs = .ok d ↔ ∃ w : WrittenDay, w.chars = cs ∧ w.date = d := by
  rw [Almanac.readDate_eq_ok_iff]
  constructor
  · rintro ⟨hplain, hchars⟩
    exact ⟨⟨d, hplain⟩, hchars, rfl⟩
  · rintro ⟨w, hchars, rfl⟩
    exact ⟨w.plainYear, hchars⟩

theorem readDate_chars (w : WrittenDay) : readDate w.chars = .ok w.date :=
  readDate_basic w.plainYear

theorem readDate_eq_error_iff {cs : List Char} {fault : LineFault} :
    readDate cs = .error fault ↔ (∀ w : WrittenDay, w.chars ≠ cs) ∧ fault = .invalidDate := by
  rw [eq_error_iff_of_forall fun _ => eq_invalidDate_of_readDate]
  simp only [ne_eq, readDate_eq_ok_iff]
  refine and_congr_left' ⟨?_, ?_⟩
  · intro h w hchars
    exact h w.date ⟨w, hchars, rfl⟩
  · rintro h d ⟨w, hchars, -⟩
    exact h w hchars

end WrittenDay

namespace WrittenDateTime

theorem readDateTime_eq_ok_iff {cs : List Char} {t : DateTime} {isUtc : Bool} :
    readDateTime cs = .ok (t, isUtc) ↔
      ∃ w : WrittenDateTime, w.chars = cs ∧ w.dateTime = t ∧ w.isUtc = isUtc := by
  rw [Almanac.readDateTime_eq_ok_iff]
  constructor
  · rintro ⟨hplain, mark, hmark, hchars⟩
    exact ⟨⟨⟨t.date, hplain⟩, mark, isTimeMark_iff.1 hmark, t.time, isUtc⟩, hchars, rfl, rfl⟩
  · rintro ⟨w, hchars, rfl, rfl⟩
    exact ⟨w.day.plainYear, w.mark, isTimeMark_iff.2 w.isMark, hchars⟩

theorem readDateTimeItem_eq_ok_iff {item : List Char} {zoneId : Option String} {d : ListedDate} :
    ListedDate.readDateTimeItem item zoneId = .ok d ↔
      ∃ w : WrittenDateTime, w.chars = item ∧ w.meaning zoneId = d := by
  rw [ListedDate.readDateTimeItem, bind_eq_ok_iff]
  constructor
  · rintro ⟨⟨t, isUtc⟩, hread, hmeaning⟩
    obtain ⟨w, hchars, rfl, rfl⟩ := readDateTime_eq_ok_iff.1 hread
    exact ⟨w, hchars, Except.ok.inj hmeaning⟩
  · rintro ⟨w, hchars, rfl⟩
    exact ⟨(w.dateTime, w.isUtc), readDateTime_eq_ok_iff.2 ⟨w, hchars, rfl, rfl⟩, rfl⟩

theorem readTime_eq_error_iff {cs : List Char} {fault : LineFault} :
    readTime cs = .error fault ↔
      (∀ (time : TimeOfDay) (isUtc : Bool), time.basic ++ utcMark isUtc ≠ cs) ∧
        fault = .invalidTime := by
  rw [eq_error_iff_of_forall fun _ => eq_invalidTime_of_readTime]
  simp only [ne_eq, Prod.forall, readTime_eq_ok_iff]

theorem dateTimeFault_of_readDateTime {cs : List Char} {fault : LineFault}
    (h : readDateTime cs = .error fault) : DateTimeFault cs fault := by
  unfold readDateTime at h
  split at h
  · next hcut =>
    obtain rfl := Except.error.inj h
    exact .unmarked (forall_isTimeMark_iff.1 (Text.cut?_eq_none_iff.1 hcut))
  · next before after hcut =>
    obtain ⟨mark, rfl, hmark, hbefore⟩ := Text.eq_append_of_cut? hcut
    cases hday : readDate before with
    | error dayFault =>
      rw [hday] at h
      obtain rfl := Except.error.inj h
      obtain ⟨hnone, rfl⟩ := WrittenDay.readDate_eq_error_iff.1 hday
      exact .badDay (forall_isTimeMark_iff.1 hbefore) (isTimeMark_iff.1 hmark) hnone
    | ok d =>
      obtain ⟨w, rfl, rfl⟩ := WrittenDay.readDate_eq_ok_iff.1 hday
      cases htime : readTime after with
      | ok read =>
        rw [hday, htime] at h
        exact nomatch h
      | error timeFault =>
        rw [hday, htime] at h
        obtain rfl := Except.error.inj h
        obtain ⟨hnone, rfl⟩ := readTime_eq_error_iff.1 htime
        exact .badTime w (isTimeMark_iff.1 hmark) hnone

theorem readDateTime_of_dateTimeFault {cs : List Char} {fault : LineFault}
    (h : DateTimeFault cs fault) : readDateTime cs = .error fault := by
  cases h with
  | unmarked noMark =>
    rw [readDateTime, Text.cut?_eq_none_iff.2 (forall_isTimeMark_iff.2 noMark)]
  | badDay noMark isMark noDay =>
    rw [readDateTime, Text.cut?_append_cons (isTimeMark_iff.2 isMark)
      (forall_isTimeMark_iff.2 noMark)]
    dsimp only
    rw [WrittenDay.readDate_eq_error_iff.2 ⟨noDay, rfl⟩]
    rfl
  | badTime day isMark noTime =>
    have hday : ∀ c ∈ day.chars, isTimeMark c = false :=
      Date.isTimeMark_of_mem_basic
    rw [readDateTime, Text.cut?_append_cons (isTimeMark_iff.2 isMark) hday]
    dsimp only
    rw [day.readDate_chars, readTime_eq_error_iff.2 ⟨noTime, rfl⟩]
    rfl

theorem readDateTime_eq_error_iff {cs : List Char} {fault : LineFault} :
    readDateTime cs = .error fault ↔ DateTimeFault cs fault :=
  ⟨dateTimeFault_of_readDateTime, readDateTime_of_dateTimeFault⟩

theorem readDateTimeItem_eq_error_iff {item : List Char} {zoneId : Option String}
    {fault : LineFault} :
    ListedDate.readDateTimeItem item zoneId = .error fault ↔ DateTimeFault item fault := by
  rw [← readDateTime_eq_error_iff, ListedDate.readDateTimeItem]
  cases readDateTime item with
  | error fault' => simp [bind, Except.bind]
  | ok read => simp [bind, Except.bind, pure, Except.pure]

theorem mem_chars {w : WrittenDateTime} {c : Char} (h : c ∈ w.chars) :
    c.isDigit = true ∨ c = 'T' ∨ c = 't' ∨ c = 'Z' := by
  rcases List.mem_append.1 h with hday | h
  · exact Or.inl (Date.isDigit_of_mem_basic w.day.plainYear hday)
  · rcases List.mem_cons.1 h with rfl | h
    · exact Or.inr (w.isMark.imp_right Or.inl)
    · rcases List.mem_append.1 h with htime | hutc
      · exact Or.inl (TimeOfDay.isDigit_of_mem_basic htime)
      · exact Or.inr (Or.inr (Or.inr (mem_utcMark hutc)))

theorem slash_not_mem (w : WrittenDateTime) : '/' ∉ w.chars := by
  intro h
  rcases mem_chars h with h | h | h | h <;> exact absurd h (by decide)

end WrittenDateTime

theorem head?_dropWhile_eq_some_iff {p : Char → Bool} {c : Char} (hc : p c = false)
    {cs : List Char} :
    (cs.dropWhile p).head? = some c ↔
      ∃ before rest, (∀ a ∈ before, p a = true) ∧ before ++ c :: rest = cs := by
  constructor
  · intro h
    obtain ⟨rest, hrest⟩ := List.head?_eq_some_iff.1 h
    refine ⟨cs.takeWhile p, rest, fun a ha => List.mem_takeWhile_imp ha, ?_⟩
    rw [← hrest, List.takeWhile_append_dropWhile]
  · rintro ⟨before, rest, hbefore, rfl⟩
    rw [List.dropWhile_append_of_pos hbefore, List.dropWhile_cons_of_neg (by simp [hc])]
    rfl

namespace PeriodEnd

theorem isPeriodEnd_iff {cs : List Char} :
    ListedDate.isPeriodEnd cs = true ↔ ∃ finish : PeriodEnd, finish.chars = cs := by
  have hdateTime : (readDateTime cs).isOk = true ↔ ∃ w : WrittenDateTime, w.chars = cs := by
    constructor
    · intro h
      cases hread : readDateTime cs with
      | ok read =>
        obtain ⟨w, hchars, -⟩ := WrittenDateTime.readDateTime_eq_ok_iff.1 hread
        exact ⟨w, hchars⟩
      | error fault =>
        rw [hread] at h
        exact nomatch h
    · rintro ⟨w, hchars⟩
      rw [WrittenDateTime.readDateTime_eq_ok_iff.2 ⟨w, hchars, rfl, rfl⟩]
      rfl
  rw [ListedDate.isPeriodEnd, Bool.or_eq_true, beq_iff_eq, head?_dropWhile_eq_some_iff rfl,
    hdateTime]
  simp only [Bool.or_eq_true, beq_iff_eq]
  constructor
  · rintro (⟨signs, rest, hsign, rfl⟩ | ⟨w, rfl⟩)
    · exact ⟨.duration signs rest hsign, rfl⟩
    · exact ⟨.dateTime w, rfl⟩
  · rintro ⟨finish, rfl⟩
    cases finish with
    | dateTime w => exact Or.inr ⟨w, rfl⟩
    | duration signs rest hsign => exact Or.inl ⟨signs, rest, hsign, rfl⟩

end PeriodEnd

namespace WrittenItem

variable {item : List Char} {valueType zoneId : Option String}

theorem readPeriodItem_eq_ok_iff {d : ListedDate} :
    ListedDate.readPeriodItem item zoneId = .ok d ↔
      ∃ start finish, (period start finish).chars = item ∧ start.meaning zoneId = d := by
  constructor
  · intro h
    unfold ListedDate.readPeriodItem at h
    split at h
    · exact nomatch h
    · next before after hcut =>
      obtain ⟨c, rfl, hc, -⟩ := Text.eq_append_of_cut? hcut
      obtain rfl : c = '/' := by simpa using hc
      split at h
      · next hfinish =>
        obtain ⟨finish, rfl⟩ := PeriodEnd.isPeriodEnd_iff.1 hfinish
        split at h
        · next listed hstart =>
          obtain rfl := Except.ok.inj h
          obtain ⟨start, rfl, hmeaning⟩ := WrittenDateTime.readDateTimeItem_eq_ok_iff.1 hstart
          exact ⟨start, finish, rfl, hmeaning⟩
        · exact nomatch h
      · exact nomatch h
  · rintro ⟨start, finish, rfl, rfl⟩
    rw [ListedDate.readPeriodItem, chars, Text.cut?_append_of_not_mem start.slash_not_mem]
    dsimp only
    rw [if_pos (PeriodEnd.isPeriodEnd_iff.2 ⟨finish, rfl⟩),
      WrittenDateTime.readDateTimeItem_eq_ok_iff.2 ⟨start, rfl, rfl⟩]

theorem readPeriodItem_eq_error_iff {fault : LineFault} :
    ListedDate.readPeriodItem item zoneId = .error fault ↔
      (∀ start finish, (period start finish).chars ≠ item) ∧ fault = .invalidPeriod := by
  have hfault {fault : LineFault} (h : ListedDate.readPeriodItem item zoneId = .error fault) :
      fault = .invalidPeriod := by
    unfold ListedDate.readPeriodItem at h
    split at h
    · exact (Except.error.inj h).symm
    · split at h
      · split at h
        · exact nomatch h
        · exact (Except.error.inj h).symm
      · exact (Except.error.inj h).symm
  rw [eq_error_iff_of_forall fun _ => hfault]
  simp only [ne_eq, readPeriodItem_eq_ok_iff]
  refine and_congr_left' ⟨?_, ?_⟩
  · intro h start finish hchars
    exact h _ ⟨start, finish, hchars, rfl⟩
  · rintro h d ⟨start, finish, hchars, -⟩
    exact h start finish hchars

theorem readItem_eq (item : List Char) (valueType zoneId : Option String) :
    ListedDate.readItem item valueType zoneId =
      match ItemForm.required valueType item with
      | .day => (readDate item).map .day
      | .dateTime => ListedDate.readDateTimeItem item zoneId
      | .period => ListedDate.readPeriodItem item zoneId := by
  have hmarks : item.any isTimeMark = true ↔ 'T' ∈ item ∨ 't' ∈ item := by
    simp [isTimeMark_iff, and_or_left, exists_or]
  unfold ListedDate.readItem ItemForm.required
  -- the three types exclude each other, so that it does not matter which is asked for first
  by_cases hdate : valueType = some "DATE"
  · rw [if_pos hdate, if_pos hdate]
  · rw [if_neg hdate, if_neg hdate]
    by_cases hdateTime : valueType = some "DATE-TIME"
    · rw [if_pos hdateTime, if_pos (Or.inl hdateTime), if_neg]
      rw [hdateTime]
      decide
    · simp only [hdateTime, false_or, hmarks, if_false]
      split
      · rfl
      · split <;> rfl

theorem readItem_eq_ok_iff {d : ListedDate} :
    ListedDate.readItem item valueType zoneId = .ok d ↔
      ∃ w, Spells valueType item w ∧ w.meaning zoneId = d := by
  rw [readItem_eq]
  constructor
  · intro h
    cases hform : ItemForm.required valueType item with
    | day =>
      rw [hform] at h
      obtain ⟨date, hdate, rfl⟩ := map_eq_ok_iff.1 h
      obtain ⟨w, hchars, rfl⟩ := WrittenDay.readDate_eq_ok_iff.1 hdate
      exact ⟨day w, ⟨hform.symm, hchars⟩, rfl⟩
    | dateTime =>
      rw [hform] at h
      obtain ⟨w, hchars, hmeaning⟩ := WrittenDateTime.readDateTimeItem_eq_ok_iff.1 h
      exact ⟨dateTime w, ⟨hform.symm, hchars⟩, hmeaning⟩
    | period =>
      rw [hform] at h
      obtain ⟨start, finish, hchars, hmeaning⟩ := readPeriodItem_eq_ok_iff.1 h
      exact ⟨period start finish, ⟨hform.symm, hchars⟩, hmeaning⟩
  · rintro ⟨w, ⟨hform, hchars⟩, rfl⟩
    rw [← hform]
    cases w with
    | day w => exact map_eq_ok_iff.2 ⟨w.date, WrittenDay.readDate_eq_ok_iff.2 ⟨w, hchars, rfl⟩, rfl⟩
    | dateTime w => exact WrittenDateTime.readDateTimeItem_eq_ok_iff.2 ⟨w, hchars, rfl⟩
    | period start finish => exact readPeriodItem_eq_ok_iff.2 ⟨start, finish, hchars, rfl⟩

theorem readItem_eq_error_iff (zoneId : Option String) {fault : LineFault} :
    ListedDate.readItem item valueType zoneId = .error fault ↔ ItemFault valueType item fault := by
  rw [readItem_eq]
  constructor
  · intro h
    cases hform : ItemForm.required valueType item with
    | day =>
      rw [hform] at h
      obtain ⟨hnone, rfl⟩ := WrittenDay.readDate_eq_error_iff.1 (map_eq_error_iff.1 h)
      exact .day hform hnone
    | dateTime =>
      rw [hform] at h
      exact .dateTime hform (WrittenDateTime.readDateTimeItem_eq_error_iff.1 h)
    | period =>
      rw [hform] at h
      obtain ⟨hnone, rfl⟩ := readPeriodItem_eq_error_iff.1 h
      exact .period hform hnone
  · rintro (⟨hform, hnone⟩ | ⟨hform, hfault⟩ | ⟨hform, hnone⟩)
    · rw [hform]
      exact map_eq_error_iff.2 (WrittenDay.readDate_eq_error_iff.2 ⟨hnone, rfl⟩)
    · rw [hform]
      exact WrittenDateTime.readDateTimeItem_eq_error_iff.2 hfault
    · rw [hform]
      exact readPeriodItem_eq_error_iff.2 ⟨hnone, rfl⟩

theorem exists_itemFault_iff :
    (∃ fault, ItemFault valueType item fault) ↔ ¬∃ w, Spells valueType item w := by
  simp only [← readItem_eq_error_iff none]
  have hok : (∃ w, Spells valueType item w) ↔
      ∃ d, ListedDate.readItem item valueType none = .ok d := by
    simp only [readItem_eq_ok_iff]
    constructor
    · rintro ⟨w, hw⟩
      exact ⟨_, w, hw, rfl⟩
    · rintro ⟨d, w, hw, -⟩
      exact ⟨w, hw⟩
  rw [hok]
  cases ListedDate.readItem item valueType none with
  | error fault => simp
  | ok d => simp

end WrittenItem

end Almanac
