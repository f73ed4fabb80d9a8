import Almanac.Line.DateList
import Almanac.Proofs.Except
import Almanac.Proofs.Line.DateForms

/-! Date lists item by item. A date list reads well if it has items and each of them reads well, and
then gives what they give: `dateList_eq_ok_iff`. Days come from items that spell a day and nothing
more. -/

namespace Almanac

namespace ListedDate

variable {number : Nat} {valueType zoneId : Option String} {item : List Char}

theorem readDateTimeItem_ne_day (d : Date) : readDateTimeItem item zoneId ≠ .ok (day d) := by
  intro h
  obtain ⟨⟨t, isUtc⟩, -, hitem⟩ := bind_eq_ok_iff.1 h
  cases isUtc <;> simp [pure, Except.pure] at hitem

theorem readPeriodItem_ne_day (d : Date) : readPeriodItem item zoneId ≠ .ok (day d) := by
  unfold readPeriodItem
  split
  · exact nofun
  · next start finish _ =>
    split
    · split
      · next listed hstart =>
        intro h
        exact readDateTimeItem_ne_day d (hstart.trans h)
      · exact nofun
    · exact nofun

theorem readItem_eq_day_iff {d : Date} :
    readItem item valueType zoneId = .ok (day d) ↔
      (valueType ≠ some "PERIOD" ∧ valueType ≠ some "DATE-TIME") ∧ readDate item = .ok d := by
  have hday : (readDate item).map day = .ok (day d) ↔ readDate item = .ok d := by
    simp [map_eq_ok_iff]
  have hmark (hdate : readDate item = .ok d) : item.any isTimeMark = false := by
    rw [List.any_eq_false]
    intro c hc
    rw [isTimeMark_of_isDigit (isDigit_of_readDate hdate hc)]
    exact Bool.false_ne_true
  unfold readItem
  split
  · next hvalue => simp [hvalue, hday]
  · split
    · next hvalue => simp [hvalue, readPeriodItem_ne_day]
    · next hperiod =>
      split
      · next htime =>
        simp only [readDateTimeItem_ne_day, false_iff]
        rintro ⟨⟨-, hdateTime⟩, hdate⟩
        rcases htime with hvalue | htime
        · exact hdateTime hvalue
        · simp [hmark hdate] at htime
      · next htime => simp_all [not_or]

theorem readItems_eq_ok_iff {pieces : List (Nat × List Char)} {listed : List ListedDate} :
    readItems number valueType zoneId pieces = .ok listed ↔
      (((pieces.map Prod.snd).map Text.trim).filter fun item => item ≠ []).map
        (fun item => readItem item valueType zoneId) = listed.map .ok := by
  induction pieces generalizing listed with
  | nil => simp [readItems, eq_comm]
  | cons piece pieces ih =>
    obtain ⟨offset, raw⟩ := piece
    rw [readItems, List.map_cons, List.map_cons]
    by_cases hblank : Text.trim raw = []
    · rw [if_pos hblank, List.filter_cons_of_neg (by simpa using hblank)]
      exact ih
    · rw [if_neg hblank, List.filter_cons_of_pos (by simpa using hblank), List.map_cons]
      cases readItem (Text.trim raw) valueType zoneId with
      | error fault => cases listed <;> simp
      | ok d =>
        simp only [bind_eq_ok_iff, ih]
        cases listed with
        | nil => simp [pure, Except.pure]
        | cons first rest =>
          simp only [List.map_cons, List.cons.injEq, Except.ok.injEq]
          constructor
          · rintro ⟨rest', hrest, hcons⟩
            obtain ⟨rfl, rfl⟩ := List.cons.inj (Except.ok.inj hcons)
            exact ⟨rfl, hrest⟩
          · rintro ⟨rfl, hrest⟩
            exact ⟨rest, hrest, rfl⟩

end ListedDate

namespace ContentLine

def items (l : ContentLine) : List (List Char) :=
  ((l.value.toList.splitOn ',').map Text.trim).filter fun item => item ≠ []

def itemForm? (l : ContentLine) : Option String :=
  l.valueType?.map Text.asciiUpper

/-- The items are not said to be of another form, and one of them spells the day. -/
def ListsDay (l : ContentLine) (d : Date) : Prop :=
  (l.itemForm? ≠ some "PERIOD" ∧ l.itemForm? ≠ some "DATE-TIME") ∧
    ∃ item ∈ l.items, readDate item = .ok d

theorem map_snd_withOffsets (offset : Nat) (pieces : List (List Char)) :
    (withOffsets offset pieces).map Prod.snd = pieces := by
  induction pieces generalizing offset with
  | nil => rfl
  | cons piece pieces ih => rw [withOffsets, List.map_cons, ih]

theorem readItems_withOffsets_eq_ok_iff {l : ContentLine} {number : Nat}
    {listed : List ListedDate} :
    ListedDate.readItems number l.itemForm? l.zoneId?
        (withOffsets l.valueOffset (l.value.toList.splitOn ',')) = .ok listed ↔
      (l.items.map fun item => ListedDate.readItem item l.itemForm? l.zoneId?) =
        listed.map .ok := by
  rw [ListedDate.readItems_eq_ok_iff, map_snd_withOffsets]
  rfl

theorem dateList_eq_ok_iff {l : ContentLine} {number : Nat} {listed : List ListedDate} :
    l.dateList number = .ok listed ↔
      listed ≠ [] ∧ (l.items.map fun item => ListedDate.readItem item l.itemForm? l.zoneId?) =
        listed.map .ok := by
  rw [← readItems_withOffsets_eq_ok_iff]
  unfold dateList
  dsimp only
  split
  · next e he =>
    rw [itemForm?, he]
    simp
  · next hnone =>
    rw [itemForm?, hnone]
    simp
  · next ds hempty hds =>
    rw [itemForm?, hds]
    simp only [Except.ok.injEq, iff_and_self]
    rintro rfl rfl
    exact hempty rfl

theorem day_mem_iff {l : ContentLine} {number : Nat} {listed : List ListedDate}
    (h : l.dateList number = .ok listed) (d : Date) : .day d ∈ listed ↔ l.ListsDay d := by
  have hlisted := (dateList_eq_ok_iff.1 h).2
  have hday : .day d ∈ listed ↔
      ∃ item ∈ l.items, ListedDate.readItem item l.itemForm? l.zoneId? = .ok (.day d) := by
    rw [← List.mem_map, hlisted]
    simp
  rw [hday]
  simp only [ListedDate.readItem_eq_day_iff, ListsDay]
  constructor
  · rintro ⟨item, hitem, hform, hdate⟩
    exact ⟨hform, item, hitem, hdate⟩
  · rintro ⟨hform, item, hitem, hdate⟩
    exact ⟨item, hitem, hform, hdate⟩

end ContentLine

end Almanac
