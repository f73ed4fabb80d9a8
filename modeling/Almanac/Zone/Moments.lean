import Almanac.Zone.Basic

/-!
Between the values of a recurrence and the clocks of zones. A whole day stands for its midnight in
UTC; on the way back the clock of a zone is read as it shows, and what is finer than a second is cut
off.
-/

namespace Almanac

def Moment.inZone (m : Moment) (z : Zone) : ZonedTime :=
  ⟨m.toInstant, z⟩

def Moment.inUtc (m : Moment) : ZonedTime :=
  m.inZone Zone.utc

/-- What the clock of the target zone shows at the instant. -/
def ZonedTime.moment (t : ZonedTime) (target : Zone) : Moment :=
  .timed (target.clockAt t.instant.second)

namespace ZonedTime

def written (t : ZonedTime) : List Char :=
  t.clock.extended ++ ' ' :: Text.writeInt t.offset ++ ' ' :: t.zone.name.toList

instance : ToString ZonedTime := ⟨fun t => String.ofList t.written⟩

end ZonedTime

end Almanac
