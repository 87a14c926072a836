/-
# ReleaseHistory.Profile.Basic -- what counts as a duplicate

A profile is a named set of switches.  Each switch but the first two selects a
dimension of comparison; the first two ask for the same release name and
nothing else.
-/

namespace ReleaseHistory

set_option autoImplicit false

/-- The switches of a profile. -/
structure Switches where
  exact : Bool := false
  releaseName : Bool := false
  protocol : Bool := false
  title : Bool := false
  subTitle : Bool := false
  year : Bool := false
  month : Bool := false
  day : Bool := false
  source : Bool := false
  resolution : Bool := false
  codec : Bool := false
  container : Bool := false
  hdr : Bool := false
  audio : Bool := false
  group : Bool := false
  season : Bool := false
  episode : Bool := false
  website : Bool := false
  proper : Bool := false
  repack : Bool := false
  deriving DecidableEq, Repr

/-- The part of a profile that a history keeps. -/
structure NamedSwitches extends Switches where
  name : String := ""
  deriving DecidableEq, Repr

/-- A named set of switches with its id, 0 if it is not kept yet. -/
structure Profile extends NamedSwitches where
  id : Int := 0
  deriving DecidableEq, Repr

/-- Only the release names are compared. -/
def Switches.comparesNames (s : Switches) : Bool := s.exact || s.releaseName

end ReleaseHistory
