import Almanac.Zone.Clock

/-!
Zones, and instants on their clocks. Main statements: `mem_readings`, which says that the readings of
a wall clock are exactly the seconds that show it, and `readings_ascending`.
-/

namespace Almanac

structure Zone where
  name : String
  clock : Clock
deriving DecidableEq

namespace Zone

def utc : Zone := ⟨"UTC", .steady ⟨0, by decide⟩⟩

def offsetAt (z : Zone) (n : Int) : Int :=
  (z.clock.offsetAt n).seconds

def clockAt (z : Zone) (n : Int) : DateTime :=
  z.clock.shownAt n

/-- Every second whose clock shows `wall`, earliest first. -/
def readings (z : Zone) (wall : DateTime) : List Int :=
  z.clock.readings wall.toSeconds

/-- The second whose clock is `wall` seconds after the start of 1970, when there is exactly one. -/
def readingOf? (z : Zone) (wall : Int) : Option Int :=
  z.clock.readingOf? wall

theorem mem_readings {z : Zone} {wall : DateTime} {n : Int} :
    n ∈ z.readings wall ↔ z.clockAt n = wall := by
  unfold readings clockAt Clock.shownAt
  rw [Clock.mem_readings]
  constructor
  · intro h
    rw [h, DateTime.ofSeconds_toSeconds]
  · rintro rfl
    simp

theorem readings_ascending (z : Zone) (wall : DateTime) :
    (z.readings wall).Pairwise (· < ·) :=
  Clock.readings_pairwise ..

end Zone

structure ZonedTime where
  instant : Instant
  zone : Zone
deriving DecidableEq

namespace ZonedTime

def offset (t : ZonedTime) : Int :=
  t.zone.offsetAt t.instant.second

def clock (t : ZonedTime) : DateTime :=
  t.zone.clockAt t.instant.second

end ZonedTime

end Almanac
