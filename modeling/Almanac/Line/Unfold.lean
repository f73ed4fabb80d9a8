import Almanac.Text.Basic

/-!
From text to logical lines. A physical line that begins with a space or a tab continues the logical
line before it; blank physical lines do not count.
-/

namespace Almanac

/-- A logical line and the number of the physical line on which it starts, counted from 1. -/
structure LogicalLine where
  number : Nat
  chars : List Char
deriving DecidableEq

namespace LogicalLine

def text (l : LogicalLine) : String :=
  String.ofList l.chars

def physicalLines (text : List Char) : List (Nat × List Char) :=
  let lines := (text.splitOn '\n').map (Text.dropEndWhile (· == '\r'))
  (List.range' 1 lines.length).zip lines

/-- Joins continuations to their line. The list `before` holds the lines so far, last one first. -/
def joinFolded (before : List LogicalLine) : List (Nat × List Char) → List LogicalLine
  | [] => before.reverse
  | (number, line) :: rest =>
    if Text.isAllBlank line then joinFolded before rest
    else match line, before with
      | ' ' :: more, last :: earlier =>
        joinFolded ({ last with chars := last.chars ++ more } :: earlier) rest
      | '\t' :: more, last :: earlier =>
        joinFolded ({ last with chars := last.chars ++ more } :: earlier) rest
      | _, _ => joinFolded (⟨number, Text.trimStart line⟩ :: before) rest

def split (text : String) : List LogicalLine :=
  joinFolded [] (physicalLines text.toList)

end LogicalLine

end Almanac
