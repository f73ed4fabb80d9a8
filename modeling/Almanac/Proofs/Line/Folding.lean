import Almanac.Proofs.Line.Unfold
import Mathlib.Data.List.Flatten

/-! Folded text. A `FoldedText` is a list of content lines, each cut into segments that stand on
physical lines of their own, with blank lines anywhere between them. Splitting its text gives the
content lines with the numbers of the physical lines on which they start, less the segments that are
nothing but white space: `split_text`. -/

namespace Almanac

inductive LineEnd
  | lf
  | crlf
deriving DecidableEq

namespace LineEnd

def beforeBreak : LineEnd → List Char
  | lf => []
  | crlf => ['\r']

end LineEnd

structure PhysicalLine where
  chars : List Char
  ending : LineEnd
deriving DecidableEq

namespace PhysicalLine

def shown (l : PhysicalLine) : List Char :=
  l.chars ++ l.ending.beforeBreak

def written (l : PhysicalLine) : List Char :=
  l.shown ++ ['\n']

def stripped (l : PhysicalLine) : List Char :=
  Text.dropEndWhile (· == '\r') l.shown

end PhysicalLine

structure BlankLine extends PhysicalLine where
  blank : Text.isAllBlank chars = true
  noBreak : '\n' ∉ chars

/-- A piece of a content line, and the blank lines that follow it. -/
structure Segment where
  chars : List Char
  ending : LineEnd
  blanks : List BlankLine
  noBreak : '\n' ∉ chars
  noReturn : '\r' ∉ chars

/-- What a physical line starts with that continues the one before. -/
inductive FoldMark
  | space
  | tab
deriving DecidableEq

def FoldMark.char : FoldMark → Char
  | space => ' '
  | tab => '\t'

structure Continuation extends Segment where
  mark : FoldMark

structure FoldedLine where
  first : Segment
  later : List Continuation
  /-- The content line starts with something that is not blank, and the cuts come after that. -/
  head : ∃ c rest, first.chars = c :: rest ∧ Text.isBlank c = false

structure FoldedText where
  /-- The blank lines before the first content line. -/
  blanks : List BlankLine
  lines : List FoldedLine

namespace Segment

def physical (s : Segment) (start : List Char) : List PhysicalLine :=
  ⟨start ++ s.chars, s.ending⟩ :: s.blanks.map BlankLine.toPhysicalLine

end Segment

namespace FoldedLine

def content (l : FoldedLine) : List Char :=
  l.first.chars ++ l.later.flatMap fun s => s.chars

/-- The content line without the later segments that are nothing but white space. -/
def unfolded (l : FoldedLine) : List Char :=
  l.first.chars ++ (l.later.filter fun s => !Text.isAllBlank s.chars).flatMap fun s => s.chars

def physical (l : FoldedLine) : List PhysicalLine :=
  l.first.physical [] ++ l.later.flatMap fun s => s.toSegment.physical [s.mark.char]

end FoldedLine

namespace FoldedText

def physical (t : FoldedText) : List PhysicalLine :=
  t.blanks.map BlankLine.toPhysicalLine ++ t.lines.flatMap FoldedLine.physical

def text (t : FoldedText) : String :=
  String.ofList (t.physical.flatMap PhysicalLine.written)

def logicalLines (number : Nat) : List FoldedLine → List LogicalLine
  | [] => []
  | l :: ls => ⟨number, l.unfolded⟩ :: logicalLines (number + l.physical.length) ls

end FoldedText

namespace Text

theorem isAllBlank_dropEndWhile (p : Char → Bool) {cs : List Char} (h : isAllBlank cs = true) :
    isAllBlank (dropEndWhile p cs) = true :=
  List.all_eq_true.2 fun c hc =>
    List.all_eq_true.1 h c ((dropEndWhile_isPrefix p cs).subset hc)

end Text

open LogicalLine (joinFolded numbered numbered_cons numbered_append)

namespace PhysicalLine

theorem isAllBlank_stripped {l : PhysicalLine} (h : Text.isAllBlank l.chars = true) :
    Text.isAllBlank l.stripped = true := by
  apply Text.isAllBlank_dropEndWhile
  rw [shown, Text.isAllBlank, List.all_append, ← Text.isAllBlank, h]
  cases l.ending <;> decide

theorem stripped_eq {l : PhysicalLine} (h : '\r' ∉ l.chars) : l.stripped = l.chars := by
  have hself : Text.dropEndWhile (· == '\r') l.chars = l.chars := by
    refine Text.dropEndWhile_of_getLast? fun c hc => ?_
    rw [beq_eq_false_iff_ne]
    rintro rfl
    exact h (List.mem_of_getLast? hc)
  rw [stripped, shown]
  cases l.ending with
  | lf => rw [LineEnd.beforeBreak, List.append_nil, hself]
  | crlf =>
    rw [LineEnd.beforeBreak, Text.dropEndWhile, List.reverse_append, List.reverse_singleton,
      List.singleton_append, List.dropWhile_cons_of_pos (p := (· == '\r')) (beq_self_eq_true '\r')]
    exact hself

theorem splitOn_written {lines : List PhysicalLine} (h : ∀ l ∈ lines, '\n' ∉ l.chars) :
    (lines.flatMap written).splitOn '\n' = lines.map shown ++ [[]] := by
  induction lines with
  | nil => rfl
  | cons l lines ih =>
    obtain ⟨hl, hrest⟩ := List.forall_mem_cons.1 h
    have hshown : '\n' ∉ l.shown := by
      rw [shown, List.mem_append, not_or]
      refine ⟨hl, ?_⟩
      cases l.ending <;> decide
    rw [List.flatMap_cons, written, List.append_assoc, List.singleton_append,
      List.splitOn_append_cons_self_of_not_mem hshown, ih hrest, List.map_cons, List.cons_append]

theorem physicalLines_written {lines : List PhysicalLine} (h : ∀ l ∈ lines, '\n' ∉ l.chars) :
    LogicalLine.physicalLines (lines.flatMap written) =
      numbered 1 (lines.map stripped ++ [[]]) := by
  rw [LogicalLine.physicalLines_eq, splitOn_written h, List.map_append, List.map_map]
  rfl

end PhysicalLine

namespace LogicalLine

theorem joinFolded_append_of_blank (before : List LogicalLine) {blanks : List (Nat × List Char)}
    (h : ∀ p ∈ blanks, Text.isAllBlank p.2 = true) (rest : List (Nat × List Char)) :
    joinFolded before (blanks ++ rest) = joinFolded before rest := by
  induction blanks with
  | nil => rfl
  | cons p blanks ih =>
    obtain ⟨hp, hblanks⟩ := List.forall_mem_cons.1 h
    rw [List.cons_append, ← ih hblanks]
    exact joinFolded_cons_of_blank before p.1 hp _

theorem joinFolded_cons_of_mark (last : LogicalLine) (earlier : List LogicalLine) (number : Nat)
    (mark : FoldMark) (more : List Char) (rest : List (Nat × List Char)) :
    joinFolded (last :: earlier) ((number, mark.char :: more) :: rest) =
      joinFolded ({ last with
        chars := last.chars ++ if Text.isAllBlank more then [] else more } :: earlier) rest := by
  have hmark : Text.isAllBlank (mark.char :: more) = Text.isAllBlank more := by
    cases mark <;> rfl
  by_cases hblank : Text.isAllBlank more = true
  · rw [if_pos hblank, List.append_nil]
    exact joinFolded_cons_of_blank _ number (hmark.trans hblank) rest
  · have hnot : ¬Text.isAllBlank (mark.char :: more) = true := hmark ▸ hblank
    rw [if_neg hblank]
    cases mark with
    | space =>
      rw [FoldMark.char, joinFolded]
      exact if_neg hnot
    | tab =>
      rw [FoldMark.char, joinFolded]
      exact if_neg hnot

end LogicalLine

theorem BlankLine.isAllBlank_of_mem {blanks : List BlankLine} {number : Nat}
    {p : Nat × List Char}
    (h : p ∈ numbered number ((blanks.map toPhysicalLine).map PhysicalLine.stripped)) :
    Text.isAllBlank p.2 = true := by
  have hline := LogicalLine.mem_of_mem_numbered h
  rw [List.map_map] at hline
  obtain ⟨blank, -, hshown⟩ := List.mem_map.1 hline
  rw [← hshown]
  exact PhysicalLine.isAllBlank_stripped blank.blank

namespace Segment

open PhysicalLine (stripped stripped_eq)

theorem joinFolded_physical (s : Segment) (before : List LogicalLine) (number : Nat)
    {start : List Char} (hstart : '\r' ∉ start) (rest : List (Nat × List Char)) :
    joinFolded before (numbered number ((s.physical start).map stripped) ++ rest) =
      joinFolded before ((number, start ++ s.chars) :: rest) := by
  let blanks := numbered (number + 1) ((s.blanks.map BlankLine.toPhysicalLine).map stripped)
  have hown : stripped ⟨start ++ s.chars, s.ending⟩ = start ++ s.chars :=
    stripped_eq fun hmem => (List.mem_append.1 hmem).elim hstart s.noReturn
  have hlines : numbered number ((s.physical start).map stripped) =
      [(number, start ++ s.chars)] ++ blanks := by
    rw [physical, List.map_cons, numbered_cons, hown]
    rfl
  rw [hlines, List.append_assoc, LogicalLine.joinFolded_append,
    LogicalLine.joinFolded_append_of_blank _ fun p hp => BlankLine.isAllBlank_of_mem hp,
    ← LogicalLine.joinFolded_append]
  rfl

theorem noBreak_physical (s : Segment) {start : List Char} (hstart : '\n' ∉ start) :
    ∀ l ∈ s.physical start, '\n' ∉ l.chars := by
  refine List.forall_mem_cons.2 ⟨?_, List.forall_mem_map.2 fun blank _ => blank.noBreak⟩
  exact fun hmem => (List.mem_append.1 hmem).elim hstart s.noBreak

end Segment

theorem FoldMark.not_mem_char (mark : FoldMark) : '\r' ∉ [mark.char] ∧ '\n' ∉ [mark.char] := by
  cases mark <;> decide

namespace FoldedLine

open PhysicalLine (stripped)

theorem joinFolded_later (later : List Continuation) (last : LogicalLine)
    (earlier : List LogicalLine) (number : Nat) (rest : List (Nat × List Char)) :
    joinFolded (last :: earlier) (numbered number
        ((later.flatMap fun s => s.toSegment.physical [s.mark.char]).map stripped) ++ rest) =
      joinFolded ({ last with chars := last.chars ++
        (later.filter fun s => !Text.isAllBlank s.chars).flatMap fun s => s.chars } :: earlier)
        rest := by
  -- on the segments; what has been read of the line grows with each of them
  induction later generalizing last number with
  | nil => rw [List.filter_nil, List.flatMap_nil, List.flatMap_nil, List.append_nil]; rfl
  | cons s later ih =>
    rw [List.flatMap_cons, List.map_append, numbered_append, List.append_assoc,
      Segment.joinFolded_physical _ _ _ s.mark.not_mem_char.1, List.singleton_append,
      LogicalLine.joinFolded_cons_of_mark, ih]
    by_cases hblank : Text.isAllBlank s.chars = true
    · rw [if_pos hblank, List.append_nil, List.filter_cons_of_neg (by simp [hblank])]
    · rw [if_neg hblank, List.filter_cons_of_pos (by simpa using hblank), List.flatMap_cons,
        List.append_assoc]

theorem joinFolded_physical (l : FoldedLine) (before : List LogicalLine) (number : Nat)
    (rest : List (Nat × List Char)) :
    joinFolded before (numbered number (l.physical.map stripped) ++ rest) =
      joinFolded (⟨number, l.unfolded⟩ :: before) rest := by
  rw [physical, List.map_append, numbered_append, List.append_assoc,
    Segment.joinFolded_physical _ _ _ List.not_mem_nil, List.nil_append,
    LogicalLine.joinFolded_cons_of_head before number l.head, joinFolded_later]
  rfl

theorem noBreak_physical (l : FoldedLine) : ∀ p ∈ l.physical, '\n' ∉ p.chars := by
  refine List.forall_mem_append.2 ⟨l.first.noBreak_physical List.not_mem_nil, ?_⟩
  intro p hp
  obtain ⟨s, -, hs⟩ := List.mem_flatMap.1 hp
  exact s.noBreak_physical s.mark.not_mem_char.2 p hs

theorem unfolded_eq_content_iff (l : FoldedLine) :
    l.unfolded = l.content ↔
      ¬∃ s ∈ l.later, s.chars ≠ [] ∧ Text.isAllBlank s.chars = true := by
  rw [unfolded, content, List.append_cancel_left_eq]
  induction l.later with
  | nil => simp
  | cons s later ih =>
    have hle : ((later.filter fun s => !Text.isAllBlank s.chars).flatMap fun s => s.chars).length ≤
        (later.flatMap fun s => s.chars).length :=
      (List.filter_sublist.flatMap _).length_le
    rw [List.flatMap_cons]
    by_cases hblank : Text.isAllBlank s.chars = true
    · rw [List.filter_cons_of_neg (by simp [hblank])]
      by_cases hempty : s.chars = []
      · rw [hempty, List.nil_append, ih]
        simp [hempty]
      · -- what is left out makes the line shorter
        have hlonger := List.length_pos_iff.2 hempty
        refine iff_of_false (fun heq => ?_) fun hnone => ?_
        · have := congrArg List.length heq
          rw [List.length_append] at this
          omega
        · exact hnone ⟨s, List.mem_cons_self, hempty, hblank⟩
    · rw [List.filter_cons_of_pos (by simpa using hblank), List.flatMap_cons,
        List.append_cancel_left_eq, ih]
      simp [hblank]

end FoldedLine

namespace FoldedText

open PhysicalLine (stripped)

theorem joinFolded_lines (lines : List FoldedLine) (before : List LogicalLine) (number : Nat)
    (rest : List (Nat × List Char)) :
    joinFolded before
        (numbered number ((lines.flatMap FoldedLine.physical).map stripped) ++ rest) =
      joinFolded ((logicalLines number lines).reverse ++ before) rest := by
  induction lines generalizing before number with
  | nil => rfl
  | cons l lines ih =>
    rw [List.flatMap_cons, List.map_append, numbered_append, List.append_assoc,
      FoldedLine.joinFolded_physical, ih, List.length_map, logicalLines, List.reverse_cons,
      List.append_assoc]
    rfl

theorem noBreak_physical (t : FoldedText) : ∀ p ∈ t.physical, '\n' ∉ p.chars := by
  refine List.forall_mem_append.2 ⟨List.forall_mem_map.2 fun blank _ => blank.noBreak, ?_⟩
  intro p hp
  obtain ⟨l, -, hl⟩ := List.mem_flatMap.1 hp
  exact l.noBreak_physical p hl

/-- A folded text splits into its content lines, each with the number of the physical line on which
it starts and without the later segments that are nothing but white space. So a line comes back as
it was if and only if none of these segments holds a character. -/
theorem split_text (t : FoldedText) :
    LogicalLine.split t.text = logicalLines (1 + t.blanks.length) t.lines ∧
      ∀ l ∈ t.lines, l.unfolded = l.content ↔
        ¬∃ s ∈ l.later, s.chars ≠ [] ∧ Text.isAllBlank s.chars = true := by
  refine ⟨?_, fun l _ => l.unfolded_eq_content_iff⟩
  let lines := (t.lines.flatMap FoldedLine.physical).map stripped
  have hlines : t.physical.map stripped ++ [[]] =
      (t.blanks.map BlankLine.toPhysicalLine).map stripped ++ (lines ++ [[]]) := by
    rw [physical, List.map_append, List.append_assoc]
  -- behind the last line break there is an empty line
  have hlast (number : Nat) : ∀ p ∈ numbered number [[]], Text.isAllBlank p.2 = true := by
    intro p hp
    rw [List.mem_singleton.1 (LogicalLine.mem_of_mem_numbered hp)]
    rfl
  rw [LogicalLine.split, text, String.toList_ofList,
    PhysicalLine.physicalLines_written t.noBreak_physical, hlines, numbered_append,
    LogicalLine.joinFolded_append_of_blank _ fun p hp => BlankLine.isAllBlank_of_mem hp,
    numbered_append, joinFolded_lines, ← List.append_nil (numbered _ [[]]),
    LogicalLine.joinFolded_append_of_blank _ (hlast _), joinFolded, List.append_nil,
    List.reverse_reverse, List.length_map, List.length_map]

/-- A segment that is a space is lost, although it stands between two others. -/
example : LogicalLine.split "\r\nX-NOTE:a\r\n  \n\n\tb\nRDATE:20240105\r\n" =
    [⟨2, "X-NOTE:ab".toList⟩, ⟨6, "RDATE:20240105".toList⟩] := by
  decide +kernel

end FoldedText

end Almanac
