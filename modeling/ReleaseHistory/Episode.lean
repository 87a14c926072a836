/-
# ReleaseHistory.Episode -- the unit of a series that a release delivers

A release delivers one episode, a whole season, or the episode of one date.
`Airing.unit?` reads the unit off the numbers: an episode number wins over a
season, and a date counts only where neither is given.
-/

namespace ReleaseHistory

set_option autoImplicit false

/-- Title, numbers and date by which a delivery is looked up. -/
structure Airing where
  title : String
  season : Int := 0
  episode : Int := 0
  year : Int := 0
  month : Int := 0
  day : Int := 0
  deriving DecidableEq, Repr

/-- What is delivered once. -/
inductive AiringUnit where
  | episode (season episode : Int)
  | season (season : Int)
  | daily (year month day : Int)
  deriving DecidableEq, Repr

namespace Airing

def isEpisode (a : Airing) : Bool := 0 < a.episode

def isSeasonPack (a : Airing) : Bool := 0 < a.season && a.episode == 0

def isDaily (a : Airing) : Bool :=
  a.season == 0 && a.episode == 0 && 0 < a.year && 0 < a.month && 0 < a.day

/-- The unit that the numbers name. -/
def unit? (a : Airing) : Option AiringUnit :=
  if a.isEpisode then some (.episode a.season a.episode)
  else if a.isSeasonPack then some (.season a.season)
  else if a.isDaily then some (.daily a.year a.month a.day)
  else none

end Airing

end ReleaseHistory
