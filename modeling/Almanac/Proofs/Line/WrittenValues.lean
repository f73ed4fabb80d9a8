import Almanac.Calendar.Moment
import Almanac.Proofs.Line.DateList
import Almanac.Proofs.Line.Unfold

/-! Values written as a date list. The text of a value holds digits and the letters `T` and `Z` only,
so that it is found again between the commas and is read as the value itself:
`dateList_rdateLine`. -/

namespace Almanac

namespace Text

theorem mem_intercalate {separator : List Char} {pieces : List (List Char)} {c : Char}
    (h : c ∈ separator.intercalate pieces) : c ∈ separator ∨ ∃ piece ∈ pieces, c ∈ piece := by
  induction pieces with
  | nil => simp at h
  | cons piece pieces ih =>
    cases pieces with
    | nil =>
      rw [List.intercalate_singleton] at h
      exact Or.inr ⟨piece, List.mem_cons_self, h⟩
    | cons next others =>
      simp only [List.intercalate_cons_cons, List.mem_append] at h
      rcases h with (h | h) | h
      · exact Or.inr ⟨piece, List.mem_cons_self, h⟩
      · exact Or.inl h
      · rcases ih h with hsep | ⟨found, hfound, hc⟩
        · exact Or.inl hsep
        · exact Or.inr ⟨found, List.mem_cons_of_mem piece hfound, hc⟩

theorem trim_of_noBlank {cs : List Char} (h : ∀ c ∈ cs, isBlank c = false) : trim cs = cs := by
  have hstart : trimStart cs = cs := by
    cases cs with
    | nil => rfl
    | cons c cs => exact List.dropWhile_cons_of_neg (by simp [h c List.mem_cons_self])
  rw [trim, hstart]
  exact dropEndWhile_of_getLast? fun c hc => h c (List.mem_of_getLast? hc)

theorem isBlank_of_isDigit {c : Char} (h : c.isDigit = true) : isBlank c = false := by
  have hrange := toNat_of_isDigit h
  simp [isBlank]
  omega

end Text

namespace Moment

theorem mem_written {v : Moment} (h : v.date.HasPlainYear) {c : Char} (hc : c ∈ v.written) :
    c.isDigit = true ∨ c = 'T' ∨ c = 'Z' := by
  cases v with
  | wholeDay d => exact Or.inl (Date.isDigit_of_mem_basic h hc)
  | timed t =>
    simp only [written, DateTime.basic, List.append_assoc, List.cons_append, List.mem_append,
      List.mem_cons, List.not_mem_nil, or_false] at hc
    rcases hc with hc | rfl | hc | rfl
    · exact Or.inl (Date.isDigit_of_mem_basic h hc)
    · exact Or.inr (Or.inl rfl)
    · exact Or.inl (TimeOfDay.isDigit_of_mem_basic hc)
    · exact Or.inr (Or.inr rfl)

theorem isBlank_of_mem_written {v : Moment} (h : v.date.HasPlainYear) {c : Char}
    (hc : c ∈ v.written) : Text.isBlank c = false := by
  rcases mem_written h hc with hdigit | rfl | rfl
  · exact Text.isBlank_of_isDigit hdigit
  · rfl
  · rfl

theorem written_ne_nil {v : Moment} (h : v.date.HasPlainYear) : v.written ≠ [] := by
  cases v with
  | wholeDay d => exact List.ne_nil_of_length_eq_add_one (d.fields_basic h).1
  | timed t => exact List.append_ne_nil_of_right_ne_nil _ (List.cons_ne_nil _ _)

def listed : Moment → ListedDate
  | wholeDay d => .day d
  | timed t => .utc t

theorem readItem_written {v : Moment} (h : v.date.HasPlainYear) (zoneId : Option String) :
    ListedDate.readItem v.written none zoneId = .ok v.listed := by
  cases v with
  | wholeDay d =>
    exact ListedDate.readItem_eq_day_iff.2 ⟨⟨by decide, by decide⟩, readDate_basic h⟩
  | timed t =>
    have hmark : (timed t).written.any isTimeMark = true := by
      refine List.any_eq_true.2 ⟨'T', ?_, rfl⟩
      simp [written, DateTime.basic]
    rw [ListedDate.readItem, if_neg (by decide), if_neg (by decide), if_pos (Or.inr hmark),
      ListedDate.readDateTimeItem, written, readDateTime_basic h]
    rfl

end Moment

namespace ContentLine

def rdateText (vs : List Moment) : String :=
  "RDATE:" ++ ",".intercalate (vs.map toString)

def rdateLine (vs : List Moment) : ContentLine where
  name := "RDATE"
  parameters := []
  value := ",".intercalate (vs.map toString)
  valueOffset := 6

theorem parse_rdateText (vs : List Moment) (number : Nat) :
    parse (rdateText vs) number = .ok (rdateLine vs) := by
  have hhead : cutHead none 0 (rdateText vs).toList =
      .ok (['R', 'D', 'A', 'T', 'E'], (",".intercalate (vs.map toString)).toList) := by
    rw [rdateText, String.toList_append]
    rfl
  simp only [parse, hhead, String.ofList_toList]
  rfl

theorem property?_rdateLine (vs : List Moment) : (rdateLine vs).property? = some .rdate :=
  (by decide : Property.ofName? "RDATE" = some .rdate)

theorem map_toString (vs : List Moment) :
    vs.map toString = (vs.map Moment.written).map String.ofList := by
  rw [List.map_map]
  rfl

variable {vs : List Moment}

theorem isBlank_of_mem_rdateText (h : ∀ v ∈ vs, v.date.HasPlainYear) {c : Char}
    (hc : c ∈ (rdateText vs).toList) : Text.isBlank c = false := by
  rw [rdateText, String.toList_append, List.mem_append] at hc
  rcases hc with hname | hvalue
  · have hall : "RDATE:".toList.all (fun c => !Text.isBlank c) = true := by decide
    simpa using List.all_eq_true.1 hall c hname
  · rw [map_toString, String.toList_intercalate] at hvalue
    rcases Text.mem_intercalate hvalue with hcomma | ⟨piece, hpiece, hc⟩
    · obtain rfl : c = ',' := List.mem_singleton.1 hcomma
      rfl
    · obtain ⟨text, htext, rfl⟩ := List.mem_map.1 hpiece
      obtain ⟨cs, hcs, rfl⟩ := List.mem_map.1 htext
      obtain ⟨v, hv, rfl⟩ := List.mem_map.1 hcs
      rw [String.toList_ofList] at hc
      exact Moment.isBlank_of_mem_written (h v hv) hc

theorem isUnfolded_rdateText (h : ∀ v ∈ vs, v.date.HasPlainYear) :
    LogicalLine.IsUnfolded (rdateText vs).toList where
  head := by
    refine ⟨'R', "DATE:".toList ++ (",".intercalate (vs.map toString)).toList, ?_, rfl⟩
    rw [rdateText, String.toList_append]
    rfl
  noBreak hmem := absurd (isBlank_of_mem_rdateText h hmem) (by decide)
  noReturn c hc := by
    rw [beq_eq_false_iff_ne]
    rintro rfl
    exact absurd (isBlank_of_mem_rdateText h (List.mem_of_getLast? hc)) (by decide)

theorem dateList_rdateLine (h : ∀ v ∈ vs, v.date.HasPlainYear) (hne : vs ≠ []) (number : Nat) :
    (rdateLine vs).dateList number = .ok (vs.map Moment.listed) := by
  have hpieces : (rdateLine vs).value.toList.splitOn ',' = vs.map Moment.written := by
    rw [rdateLine, map_toString]
    refine Text.splitOn_intercalate rfl ?_ (by simpa using hne)
    refine List.forall_mem_map.2 fun v hv hcomma => ?_
    rcases Moment.mem_written (h v hv) hcomma with hdigit | heq | heq
    · exact absurd hdigit (by decide)
    · exact absurd heq (by decide)
    · exact absurd heq (by decide)
  have hitems : (rdateLine vs).items = vs.map Moment.written := by
    have htrim : (vs.map Moment.written).map Text.trim = vs.map Moment.written := by
      rw [List.map_map]
      exact List.map_congr_left fun v hv =>
        Text.trim_of_noBlank fun c hc => Moment.isBlank_of_mem_written (h v hv) hc
    rw [items, hpieces, htrim, List.filter_eq_self]
    exact List.forall_mem_map.2 fun v hv => decide_eq_true (Moment.written_ne_nil (h v hv))
  have hread : vs.map (fun v => ListedDate.readItem v.written none (rdateLine vs).zoneId?) =
      vs.map (fun v => .ok v.listed) :=
    List.map_congr_left fun v hv => Moment.readItem_written (h v hv) _
  refine dateList_eq_ok_iff.2 ⟨by simpa using hne, ?_⟩
  rw [hitems, List.map_map, List.map_map]
  exact hread

end ContentLine

end Almanac
