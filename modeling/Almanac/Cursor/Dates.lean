import Almanac.Cursor.Basic
import Almanac.Cursor.Error

/-!
A cursor that shows only the day of each value. Advancing to a day keeps everything on that day,
since no value of a day stands before its midnight.
-/

namespace Almanac

structure DateCursor (γ : Type) where
  inner : γ
deriving DecidableEq

namespace DateCursor

variable {γ : Type} [OccurrenceCursor γ]

def hasNext (c : DateCursor γ) : Bool × DateCursor γ :=
  let (more, inner) := OccurrenceCursor.hasNext c.inner
  (more, ⟨inner⟩)

def next (c : DateCursor γ) : Option Date × DateCursor γ :=
  let (m, inner) := OccurrenceCursor.next c.inner
  (m.map Moment.date, ⟨inner⟩)

def tryNext (c : DateCursor γ) : Except CursorError Date × DateCursor γ :=
  match c.next with
  | (some d, c) => (.ok d, c)
  | (none, c) => (.error .exhausted, c)

def advanceTo (target : Date) (c : DateCursor γ) : Nat × DateCursor γ :=
  let (discarded, inner) := OccurrenceCursor.advanceTo (.wholeDay target) c.inner
  (discarded, ⟨inner⟩)

end DateCursor

end Almanac
