/-
# ReleaseHistory.Release.Basic -- announced releases and the actions made on them

A release is what an indexer announced under one name, with the parts read from
that name and what the filter made of it.  An action status is the outcome of
one attempt to act on a release.

Both are split in two: the fields that a history keeps as they are
(`Announcement`, `Attempt`), and the labels, lists and points in time that it
keeps in a form of its own.  An id of 0 stands for a record not kept yet.
-/
import ReleaseHistory.Release.Labels
import ReleaseHistory.Calendar.DateTime

namespace ReleaseHistory

set_option autoImplicit false

/-- The indexer that announced a release. -/
structure Indexer where
  id : Int := 0
  name : String := ""
  identifier : String := ""
  externalIdentifier : String := ""
  deriving DecidableEq, Repr

/-- The texts, numbers and flags of a release. -/
structure Announcement where
  torrentName : String := ""
  title : String := ""
  subTitle : String := ""
  year : Int := 0
  month : Int := 0
  day : Int := 0
  season : Int := 0
  episode : Int := 0
  resolution : String := ""
  source : String := ""
  container : String := ""
  audioChannels : String := ""
  group : String := ""
  website : String := ""
  proper : Bool := false
  repack : Bool := false
  indexer : Indexer := {}
  filterId : Int := 0
  filterName : String := ""
  infoUrl : String := ""
  downloadUrl : String := ""
  groupId : String := ""
  torrentId : String := ""
  size : Int := 0
  category : String := ""
  type : String := ""
  origin : String := ""
  uploader : String := ""
  preTime : String := ""
  deriving DecidableEq, Repr

/-- The texts and numbers of an attempt to act on a release. -/
structure Attempt where
  action : String := "push"
  releaseId : Int := 0
  filterId : Int := 0
  filter : String := ""
  actionId : Int := 0
  client : String := ""
  deriving DecidableEq, Repr

/-- The outcome of one attempt to act on one release. -/
structure ActionStatus extends Attempt where
  status : PushStatus := .approved
  type : ActionType := .test
  rejections : List String := []
  timestamp : Option DateTime := none
  id : Int := 0
  deriving DecidableEq

/-- One announced release. -/
structure Release extends Announcement where
  codec : List String := []
  hdr : List String := []
  audio : List String := []
  tags : List String := []
  rejections : List String := []
  protocol : Protocol := .torrent
  implementation : Implementation := .irc
  filterStatus : FilterStatus := .pending
  normalizedTitle : String := ""
  timestamp : Option DateTime := none
  actionStatus : List ActionStatus := []
  id : Int := 0
  deriving DecidableEq

end ReleaseHistory
