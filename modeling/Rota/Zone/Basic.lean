import Rota.Checked
import Rota.Calendar.Instant

/-!
Time zones. A zone is its table of offsets from UTC: the offset it begins with, and for each later
one the second from which it holds. The last offset holds for ever. Everything about local time is
read off the table: the wall clock at an instant, and the instants at which the wall clock shows a
given time, of which there may be none, one or two.
-/

namespace Rota

structure Offset where
  /-- Seconds that the wall clock is ahead of UTC. -/
  seconds : Int
  abbreviation : String
  deriving DecidableEq, Repr

structure Zone where
  name : String
  start : Offset
  /-- Later offsets, each with the UTC second it begins at, in order. -/
  changes : List (Int × Offset)
  deriving DecidableEq, Repr

namespace Zone

def utc : Zone := ⟨"UTC", ⟨0, "UTC"⟩, []⟩

def offsetFrom (current : Offset) (time : Int) : List (Int × Offset) → Offset
  | [] => current
  | (since, next) :: rest => if time < since then current else offsetFrom next time rest

def offsetAt (zone : Zone) (time : Int) : Offset := offsetFrom zone.start time zone.changes

def wallClock (zone : Zone) (time : Int) : Int := time + (zone.offsetAt time).seconds

def timesFrom (current : Offset) (since : Option Int) (wall : Int) :
    List (Int × Offset) → List Int
  | [] =>
    let time := wall - current.seconds
    if since.all (· ≤ time) then [time] else []
  | (ends, next) :: rest =>
    let time := wall - current.seconds
    let here := if since.all (· ≤ time) && decide (time < ends) then [time] else []
    here ++ timesFrom next (some ends) wall rest

def timesAt (zone : Zone) (wall : Int) : List Int := timesFrom zone.start none wall zone.changes

def localDate (zone : Zone) (moment : Instant) : Checked Date :=
  match Date.ofNumber? (zone.wallClock moment.toSeconds / secondsPerDay) with
  | some date => .ok date
  | none => .error .calendar

/-- The instant a calendar day starts: the first local midnight, or midnight UTC when the wall
clock never shows it or the calendar does not reach it. -/
def startOfDay (zone : Zone) (date : Date) : Instant :=
  ((zone.timesAt (date.number * secondsPerDay)).head?.bind Instant.ofSeconds?).getD (.midnight date)

end Zone
end Rota
