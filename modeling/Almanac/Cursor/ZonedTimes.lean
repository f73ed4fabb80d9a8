import Almanac.Cursor.Basic
import Almanac.Cursor.Error
import Almanac.Zone.Moments

/-!
A cursor that shows each value on the clock of a zone: of UTC, or of the zone that governs the
series. The choice changes what is shown and never which values there are.
-/

namespace Almanac

inductive OutputZone
  | utc
  | governing
deriving DecidableEq

structure ZonedCursor (γ : Type) where
  inner : γ
  governing : Zone
  output : OutputZone := .utc
deriving DecidableEq

namespace ZonedCursor

variable {γ : Type} [OccurrenceCursor γ]

def shown (c : ZonedCursor γ) (m : Moment) : ZonedTime :=
  match c.output with
  | .utc => m.inUtc
  | .governing => m.inZone c.governing

def hasNext (c : ZonedCursor γ) : Bool × ZonedCursor γ :=
  let (more, inner) := OccurrenceCursor.hasNext c.inner
  (more, { c with inner })

def next (c : ZonedCursor γ) : Option ZonedTime × ZonedCursor γ :=
  let (m, inner) := OccurrenceCursor.next c.inner
  (m.map c.shown, { c with inner })

def tryNext (c : ZonedCursor γ) : Except CursorError ZonedTime × ZonedCursor γ :=
  match c.next with
  | (some t, c) => (.ok t, c)
  | (none, c) => (.error .exhausted, c)

/-- Discards the values before the second of the target and counts them. -/
def advanceTo (target : ZonedTime) (c : ZonedCursor γ) : Nat × ZonedCursor γ :=
  let (discarded, inner) := OccurrenceCursor.advanceTo (target.moment Zone.utc) c.inner
  (discarded, { c with inner })

end ZonedCursor

end Almanac
