import Almanac.Proofs.Line.DateItems
import Mathlib.Data.List.Forall2
import Mathlib.Data.Set.List

/-! The grammar of date lists. The items of a line are read if there are any and each of them spells
what it must, and are read as what they spell; failing that, the first that does not is reported,
at the place of the line where it begins: `dateList_eq_iff`. -/

namespace Almanac

open WrittenItem (Spells)

namespace ListedDate

variable {number : Nat} {valueType zoneId : Option String}

def refusal (number : Nat) (ahead item : List Char) (fault : LineFault) : LineError where
  fault := fault
  line := number
  column := Text.byteLength ahead + 1
  context := some ("`" ++ String.ofList item ++ "`")

/-- What stands between two commas is blank or an item as it must be. -/
def Passes (valueType : Option String) (piece : List Char) : Prop :=
  Text.trim piece = [] ∨ ∃ w, Spells valueType (Text.trim piece) w

theorem readItems_append_eq_error_iff {before later : List (Nat × List Char)}
    (h : ∀ piece ∈ before.map Prod.snd, Passes valueType piece) {e : LineError} :
    readItems number valueType zoneId (before ++ later) = .error e ↔
      readItems number valueType zoneId later = .error e := by
  induction before with
  | nil => rfl
  | cons piece before ih =>
    obtain ⟨offset, raw⟩ := piece
    obtain ⟨hpiece, hbefore⟩ := List.forall_mem_cons.1 h
    rw [List.cons_append, readItems, ← ih hbefore]
    by_cases hblank : Text.trim raw = []
    · rw [if_pos hblank]
    · obtain ⟨w, hw⟩ := hpiece.resolve_left hblank
      rw [if_neg hblank, WrittenItem.readItem_eq_ok_iff.2 ⟨w, hw, rfl⟩]
      cases readItems number valueType zoneId (before ++ later) with
      | error e' => simp [bind, Except.bind]
      | ok listed => simp [bind, Except.bind, pure, Except.pure]

theorem passes_or_first (valueType : Option String) (pieces : List (List Char)) :
    (∀ piece ∈ pieces, Passes valueType piece) ∨
      ∃ before raw later, pieces = before ++ raw :: later ∧
        (∀ piece ∈ before, Passes valueType piece) ∧ ¬Passes valueType raw := by
  induction pieces with
  | nil => exact Or.inl fun _ h => absurd h List.not_mem_nil
  | cons piece pieces ih =>
    by_cases hpiece : Passes valueType piece
    · rcases ih with hall | ⟨before, raw, later, rfl, hbefore, hraw⟩
      · exact Or.inl (List.forall_mem_cons.2 ⟨hpiece, hall⟩)
      · exact Or.inr ⟨piece :: before, raw, later, rfl,
          List.forall_mem_cons.2 ⟨hpiece, hbefore⟩, hraw⟩
    · exact Or.inr ⟨[], piece, pieces, rfl, fun _ h => absurd h List.not_mem_nil, hpiece⟩

theorem not_passes_iff {raw : List Char} :
    ¬Passes valueType raw ↔
      Text.trim raw ≠ [] ∧ ∃ fault, ItemFault valueType (Text.trim raw) fault := by
  rw [Passes, not_or, WrittenItem.exists_itemFault_iff]

theorem readItems_cons_of_fault (ahead : List Char) {raw : List Char} {fault : LineFault}
    (hblank : Text.trim raw ≠ []) (hfault : ItemFault valueType (Text.trim raw) fault)
    (later : List (Nat × List Char)) :
    readItems number valueType zoneId ((Text.byteLength ahead, raw) :: later) =
      .error (refusal number ahead (Text.trim raw) fault) := by
  rw [readItems, if_neg hblank, (WrittenItem.readItem_eq_error_iff zoneId).2 hfault]
  rfl

end ListedDate

namespace ContentLine

open ListedDate (Passes refusal readItems)

/-- Why a line is refused as a date list, and where: for the first item that is not as it must be,
at the place where its piece of the line begins; or for having none, where the value begins. -/
inductive ListFault (l : ContentLine) (line : List Char) (number : Nat) : LineError → Prop
  | item {ahead raw : List Char} {before later : List (List Char)} {fault : LineFault}
      (pieces : l.value.toList.splitOn ',' = before ++ raw :: later)
      (earlier : ∀ piece ∈ before, Passes l.itemForm? piece) (notBlank : Text.trim raw ≠ [])
      (noItem : ItemFault l.itemForm? (Text.trim raw) fault)
      (place : line = ahead ++ [','].intercalate (raw :: later)) :
      ListFault l line number (refusal number ahead (Text.trim raw) fault)
  | noItems {ahead : List Char} (allBlank : l.items = []) (place : line = ahead ++ l.value.toList) :
      ListFault l line number {
        fault := .invalidDate
        line := number
        column := Text.byteLength ahead + 1
        context := some "empty value list" }

theorem readItems_eq_error_iff {number : Nat} {valueType zoneId : Option String}
    {ahead : List Char} {pieces : List (List Char)} {e : LineError} :
    readItems number valueType zoneId (withOffsets (Text.byteLength ahead) pieces) = .error e ↔
      ∃ before raw later fault, pieces = before ++ raw :: later ∧
        (∀ piece ∈ before, Passes valueType piece) ∧ Text.trim raw ≠ [] ∧
        ItemFault valueType (Text.trim raw) fault ∧
        refusal number (ahead ++ terminated ',' before) (Text.trim raw) fault = e := by
  -- the pieces before the first that does not pass do no more than move it to the right
  have hread {before : List (List Char)} (hbefore : ∀ piece ∈ before, Passes valueType piece)
      (later : List (List Char)) :
      readItems number valueType zoneId
          (withOffsets (Text.byteLength ahead) (before ++ later)) = .error e ↔
        readItems number valueType zoneId
          (withOffsets (Text.byteLength (ahead ++ terminated ',' before)) later) = .error e := by
    rw [withOffsets_append (rfl : Char.utf8Size ',' = 1)]
    apply ListedDate.readItems_append_eq_error_iff
    rwa [map_snd_withOffsets]
  constructor
  · intro h
    rcases ListedDate.passes_or_first valueType pieces with
      hall | ⟨before, raw, later, rfl, hbefore, hraw⟩
    · rw [← List.append_nil pieces, hread hall] at h
      exact nomatch h
    · obtain ⟨hblank, fault, hfault⟩ := ListedDate.not_passes_iff.1 hraw
      rw [hread hbefore, withOffsets, ListedDate.readItems_cons_of_fault _ hblank hfault] at h
      exact ⟨before, raw, later, fault, rfl, hbefore, hblank, hfault, Except.error.inj h⟩
  · rintro ⟨before, raw, later, fault, rfl, hbefore, hblank, hfault, rfl⟩
    rw [hread hbefore, withOffsets, ListedDate.readItems_cons_of_fault _ hblank hfault]

theorem dateList_eq_error_iff_readItems {l : ContentLine} {number : Nat} {e : LineError} :
    l.dateList number = .error e ↔
      readItems number l.itemForm? l.zoneId?
          (withOffsets l.valueOffset (l.value.toList.splitOn ',')) = .error e ∨
        l.items = [] ∧ { fault := .invalidDate, line := number, column := l.valueColumn,
                         context := some "empty value list" } = e := by
  have hnone : l.items = [] ↔ readItems number l.itemForm? l.zoneId?
      (withOffsets l.valueOffset (l.value.toList.splitOn ',')) = .ok [] := by
    rw [readItems_withOffsets_eq_ok_iff, List.map_nil, List.map_eq_nil_iff]
  rw [hnone]
  unfold dateList
  dsimp only
  split
  · next e' he =>
    rw [itemForm?, he]
    simp
  · next hnil =>
    rw [itemForm?, hnil]
    simp
  · next ds hempty hds =>
    rw [itemForm?, hds]
    simp only [reduceCtorEq, Except.ok.injEq, false_or, false_iff, not_and]
    rintro rfl
    exact absurd rfl hempty

theorem dateList_eq_error_iff {l : ContentLine} {ahead : List Char}
    (hoffset : l.valueOffset = Text.byteLength ahead) {number : Nat} {e : LineError} :
    l.dateList number = .error e ↔ l.ListFault (ahead ++ l.value.toList) number e := by
  have hvalue : [','].intercalate (l.value.toList.splitOn ',') = l.value.toList :=
    List.intercalate_splitOn ..
  rw [dateList_eq_error_iff_readItems, valueColumn, hoffset, readItems_eq_error_iff]
  constructor
  · rintro (⟨before, raw, later, fault, hpieces, hbefore, hblank, hfault, rfl⟩ | ⟨hitems, rfl⟩)
    · refine .item hpieces hbefore hblank hfault ?_
      rw [← hvalue, hpieces, intercalate_append_cons, List.append_assoc]
    · exact .noItems hitems rfl
  -- what stands ahead is known from what follows, since both make up the line
  · rintro (⟨hpieces, hbefore, hblank, hfault, hplace⟩ | ⟨hitems, hplace⟩)
    · refine Or.inl ⟨_, _, _, _, hpieces, hbefore, hblank, hfault, ?_⟩
      rw [← hvalue, hpieces, intercalate_append_cons, ← List.append_assoc] at hplace
      rw [List.append_cancel_right hplace]
    · rw [List.append_cancel_right hplace]
      exact Or.inr ⟨hitems, rfl⟩

theorem dateList_eq_ok_iff_spells {l : ContentLine} {number : Nat} {listed : List ListedDate} :
    l.dateList number = .ok listed ↔ listed ≠ [] ∧ List.Forall₂
      (fun item d => ∃ w, Spells l.itemForm? item w ∧ w.meaning l.zoneId? = d) l.items listed := by
  rw [dateList_eq_ok_iff, ← List.forall₂_eq_eq_eq, List.forall₂_map_left_iff,
    List.forall₂_map_right_iff]
  simp only [WrittenItem.readItem_eq_ok_iff]

theorem exists_dateList_iff {l : ContentLine} {number : Nat} :
    (∃ listed, l.dateList number = .ok listed) ↔
      l.items ≠ [] ∧ ∀ item ∈ l.items, ∃ w, Spells l.itemForm? item w := by
  have hread : (∀ item ∈ l.items, ∃ w, Spells l.itemForm? item w) ↔
      ∃ listed : List ListedDate, listed.map .ok =
        l.items.map fun item => ListedDate.readItem item l.itemForm? l.zoneId? := by
    rw [← Set.mem_range, Set.range_list_map]
    simp [eq_comm (a := Except.ok _), WrittenItem.readItem_eq_ok_iff]
  have hlength {listed : List ListedDate} (hmap : listed.map .ok =
      l.items.map fun item => ListedDate.readItem item l.itemForm? l.zoneId?) :
      listed = [] ↔ l.items = [] := by
    rw [← List.map_eq_nil_iff, hmap, List.map_eq_nil_iff]
  simp only [dateList_eq_ok_iff, hread]
  constructor
  · rintro ⟨listed, hne, hmap⟩
    exact ⟨mt (hlength hmap.symm).2 hne, listed, hmap.symm⟩
  · rintro ⟨hne, listed, hmap⟩
    exact ⟨listed, mt (hlength hmap).1 hne, hmap.symm⟩

/-- A line is read as a date list if it has items and each of them spells what it must; it is read
as what they spell. Otherwise it is refused for the first that does not. -/
theorem dateList_eq_iff {text : String} {start : Nat} {l : ContentLine}
    (h : parse text start = .ok l) (number : Nat) :
    ((∃ listed, l.dateList number = .ok listed) ↔
      l.items ≠ [] ∧ ∀ item ∈ l.items, ∃ w, Spells l.itemForm? item w) ∧
    (∀ listed, l.dateList number = .ok listed ↔ listed ≠ [] ∧ List.Forall₂
      (fun item d => ∃ w, Spells l.itemForm? item w ∧ w.meaning l.zoneId? = d) l.items listed) ∧
    ∀ e, l.dateList number = .error e ↔ l.ListFault text.toList number e := by
  obtain ⟨written, rfl, rfl⟩ := exists_of_parse h
  have hline : written.text.toList = written.head ++ [':'] ++ written.meaning.value.toList := by
    rw [WrittenLine.text, WrittenLine.meaning, String.toList_ofList, String.toList_ofList,
      List.append_assoc, List.singleton_append]
  refine ⟨exists_dateList_iff, fun listed => dateList_eq_ok_iff_spells, fun e => ?_⟩
  rw [hline]
  exact dateList_eq_error_iff rfl

/-- A clock, nothing, a day and what is neither. -/
theorem dateList_eq_iff_mixed :
    let text := "RDATE;TZID=Zürich:20240106t080000,,20240107 , 2024€,20240108"
    ∃ l, parse text 1 = .ok l ∧ l.dateList 4 = .error {
      fault := .invalidDate
      line := 4
      column := 47
      context := some "`2024€`" } := by
  intro text
  let value := "20240106t080000,,20240107 , 2024€,20240108"
  let l : ContentLine := ⟨"RDATE", [.ofValue "TZID" "Zürich"], value, 19⟩
  let day : WrittenDay := ⟨⟨2024, 1, 7, by decide⟩, by decide⟩
  let clock : WrittenDateTime :=
    ⟨⟨⟨2024, 1, 6, by decide⟩, by decide⟩, 't', Or.inr rfl, .ofSeconds 28800 (by decide), false⟩
  have hparse : parse text 1 = .ok l := by decide +kernel
  have hpieces : l.value.toList.splitOn ',' =
      ["20240106t080000".toList, [], "20240107 ".toList] ++
        " 2024€".toList :: ["20240108".toList] := by decide +kernel
  have hbefore : ∀ piece ∈ ["20240106t080000".toList, [], "20240107 ".toList],
      Passes l.itemForm? piece := by
    simp only [List.forall_mem_cons]
    refine ⟨Or.inr ⟨.dateTime clock, ?_⟩, Or.inl rfl, Or.inr ⟨.day day, ?_⟩, nofun⟩
    · exact ⟨by decide +kernel, by decide +kernel⟩
    · exact ⟨by decide +kernel, by decide +kernel⟩
  have hfault : readDate (Text.trim " 2024€".toList) = .error .invalidDate := by decide +kernel
  have hnoDay := (WrittenDay.readDate_eq_error_iff.1 hfault).1
  have hitem : l.ListFault text.toList 4 _ :=
    .item hpieces hbefore (by decide +kernel) (.day (by decide +kernel) hnoDay)
      (by decide +kernel : text.toList =
        "RDATE;TZID=Zürich:20240106t080000,,20240107 ,".toList ++ _)
  exact ⟨l, hparse, ((dateList_eq_iff hparse 4).2.2 _).2 hitem⟩

end ContentLine

end Almanac
