import Almanac.Proofs.Line.Unfold

/-! Logical lines as a normal form of text. Splitting leaves out white space and nothing else, every
line counts from a physical line that is not blank, and lines that are joined by line breaks split
into themselves: `split_isNormal`. -/

namespace Almanac

namespace Text

/-- The characters that are not white space, in their order. -/
def inked (cs : List Char) : List Char :=
  cs.filter fun c => !isBlank c

@[simp] theorem inked_append (as bs : List Char) : inked (as ++ bs) = inked as ++ inked bs :=
  List.filter_append ..

theorem inked_eq_nil_iff {cs : List Char} : inked cs = [] ↔ isAllBlank cs = true := by
  rw [inked, List.filter_eq_nil_iff, isAllBlank, List.all_eq_true]
  simp only [Bool.not_eq_true', Bool.not_eq_false]

theorem inked_cons_of_blank {c : Char} (h : isBlank c = true) (cs : List Char) :
    inked (c :: cs) = inked cs :=
  List.filter_cons_of_neg (by simp [h])

theorem inked_trimStart (cs : List Char) : inked (trimStart cs) = inked cs := by
  induction cs with
  | nil => rfl
  | cons c cs ih =>
    by_cases hc : isBlank c = true
    · rw [trimStart, List.dropWhile_cons_of_pos hc, inked_cons_of_blank hc]
      exact ih
    · rw [trimStart, List.dropWhile_cons_of_neg hc]

theorem inked_dropEndWhile {p : Char → Bool} (h : ∀ c, p c = true → isBlank c = true)
    (cs : List Char) : inked (dropEndWhile p cs) = inked cs := by
  -- what is dropped at the end satisfies `p`, so that it is blank
  have hcut : cs = dropEndWhile p cs ++ (cs.reverse.takeWhile p).reverse := by
    rw [dropEndWhile, ← List.reverse_append, List.takeWhile_append_dropWhile, List.reverse_reverse]
  have hdropped : inked (cs.reverse.takeWhile p).reverse = [] := by
    rw [inked_eq_nil_iff, isAllBlank, List.all_eq_true]
    intro c hc
    exact h c (List.mem_takeWhile_imp (List.mem_reverse.1 hc))
  conv_rhs => rw [hcut, inked_append, hdropped, List.append_nil]

theorem inked_flatMap_of_forall {α : Type} {f g : α → List Char} {as : List α}
    (h : ∀ a ∈ as, inked (f a) = inked (g a)) : inked (as.flatMap f) = inked (as.flatMap g) := by
  induction as with
  | nil => rfl
  | cons a as ih =>
    obtain ⟨ha, has⟩ := List.forall_mem_cons.1 h
    rw [List.flatMap_cons, List.flatMap_cons, inked_append, inked_append, ha, ih has]

theorem inked_flatten_splitOn {a : Char} (h : isBlank a = true) (cs : List Char) :
    inked (cs.splitOn a).flatten = inked cs := by
  induction cs with
  | nil => rfl
  | cons c cs ih =>
    rw [List.splitOn_cons_eq_if_modifyHead]
    split
    · next hc =>
      obtain rfl : c = a := by simpa using hc
      rw [List.flatten_cons, List.nil_append, ih, inked_cons_of_blank h]
    · rcases hpieces : cs.splitOn a with _ | ⟨first, others⟩
      · exact absurd hpieces (List.splitOn_ne_nil a cs)
      · rw [hpieces] at ih
        have hcons : inked (c :: (first :: others).flatten) = inked (c :: cs) := by
          rw [← List.singleton_append, inked_append, ih, ← inked_append, List.singleton_append]
        exact hcons

end Text

namespace LogicalLine

open Text (inked inked_append inked_eq_nil_iff inked_trimStart)

theorem inked_joinFolded (before : List LogicalLine) (lines : List (Nat × List Char)) :
    inked ((joinFolded before lines).flatMap chars) =
      inked (before.reverse.flatMap chars) ++ inked (lines.flatMap Prod.snd) := by
  fun_induction joinFolded before lines with
  | case1 before => rw [List.flatMap_nil]; exact (List.append_nil _).symm
  | case2 before number line rest hblank ih =>
    rw [ih, List.flatMap_cons, inked_append, inked_eq_nil_iff.2 hblank, List.nil_append]
  | case3 number rest more last earlier hblank ih
  | case4 number rest more last earlier hblank ih =>
    -- the mark of a continuation is blank
    rw [ih, List.flatMap_cons, inked_append, Text.inked_cons_of_blank (by decide)]
    simp only [List.reverse_cons, List.flatMap_append, List.flatMap_singleton, inked_append,
      List.append_assoc]
  | case5 before number line rest hblank _ _ ih =>
    rw [ih, List.flatMap_cons, inked_append]
    simp only [List.reverse_cons, List.flatMap_append, List.flatMap_singleton, inked_append,
      inked_trimStart, List.append_assoc]

theorem inked_physicalLines (text : List Char) :
    inked ((physicalLines text).flatMap Prod.snd) = inked text := by
  have hlines : ((physicalLines text).map Prod.snd) =
      (text.splitOn '\n').map (Text.dropEndWhile (· == '\r')) := by
    rw [physicalLines_eq, numbered, List.map_map]
    exact List.zipIdx_map_fst 1 _
  have hreturn (c : Char) (hc : (c == '\r') = true) : Text.isBlank c = true := by
    rw [eq_of_beq hc]
    decide
  rw [List.flatMap_def, hlines, ← List.flatMap_def]
  calc inked ((text.splitOn '\n').flatMap (Text.dropEndWhile (· == '\r')))
      = inked ((text.splitOn '\n').flatMap id) :=
        Text.inked_flatMap_of_forall fun piece _ => Text.inked_dropEndWhile hreturn piece
    _ = inked text := by
        rw [List.flatMap_id]
        exact Text.inked_flatten_splitOn (by decide) text

theorem physicalLine_of_mem_split {text : String} {l : LogicalLine} (h : l ∈ split text) :
    1 ≤ l.number ∧ ∃ line, (text.toList.splitOn '\n')[l.number - 1]? = some line ∧
      Text.isAllBlank line = false := by
  obtain ⟨first, hfirst, hblank, -⟩ := start_of_mem_split h
  rw [physicalLines_eq, numbered] at hfirst
  obtain ⟨⟨line, number⟩, hmem, hsame⟩ := List.mem_map.1 hfirst
  obtain ⟨rfl, rfl⟩ := Prod.mk.inj hsame
  obtain ⟨hle, hline⟩ := List.mk_mem_zipIdx_iff_le_and_getElem?_sub.1 hmem
  rw [List.getElem?_map, Option.map_eq_some_iff] at hline
  obtain ⟨line, hline, rfl⟩ := hline
  refine ⟨hle, line, hline, ?_⟩
  rw [← Bool.not_eq_true]
  intro hall
  refine hblank (List.all_eq_true.2 fun c hc => ?_)
  exact List.all_eq_true.1 hall c ((Text.dropEndWhile_isPrefix _ _).subset hc)

/-- Logical lines count from ever later physical lines, none of them blank. Each starts with a
character that is not white space and holds no line break. Together they hold what the text does,
white space apart, and joined by line breaks they split into themselves, numbered from 1. -/
theorem split_isNormal (text : String) :
    (split text).Pairwise (fun l m => l.number < m.number) ∧
    (∀ l ∈ split text, 1 ≤ l.number ∧
      ∃ line, (text.toList.splitOn '\n')[l.number - 1]? = some line ∧
        Text.isAllBlank line = false) ∧
    (∀ l ∈ split text, (∃ c rest, l.chars = c :: rest ∧ Text.isBlank c = false) ∧
      '\n' ∉ l.chars ∧ l.chars.getLast? ≠ some '\r') ∧
    inked ((split text).flatMap chars) = inked text.toList ∧
    split ("\n".intercalate ((split text).map LogicalLine.text)) =
      ((split text).zipIdx 1).map fun p => { p.1 with number := p.2 } := by
  refine ⟨pairwise_split text, fun l hl => physicalLine_of_mem_split hl, ?shape, ?content, ?again⟩
  case shape =>
    intro l hl
    have hunfolded := isUnfolded_of_mem_split hl
    refine ⟨hunfolded.head, hunfolded.noBreak, fun hlast => ?_⟩
    exact absurd (hunfolded.noReturn '\r' hlast) (by decide)
  case content =>
    rw [split, inked_joinFolded]
    exact inked_physicalLines text.toList
  case again =>
    have htexts : (split text).map LogicalLine.text =
        ((split text).map chars).map String.ofList := by
      rw [List.map_map]
      rfl
    rw [htexts, split_intercalate (List.forall_mem_map.2 fun l hl => isUnfolded_of_mem_split hl),
      List.zipIdx_map, List.map_map]
    rfl

end LogicalLine

end Almanac
