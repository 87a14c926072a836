/-
# ReleaseHistory.Store.Record -- releases and action statuses as they are kept

A kept record has labels as their names, lists as JSON texts and the timestamp
without an offset, in UTC.  Writing a record fails only when its timestamp
leaves the years 1 to 9999 on the way to UTC; reading one fails when a label or
a list was spoilt.
-/
import ReleaseHistory.Fault
import ReleaseHistory.Json.TextList
import ReleaseHistory.Release.Projection

namespace ReleaseHistory

set_option autoImplicit false

/-- A release as it is kept. -/
structure StoredRelease extends Announcement where
  codecText : String
  hdrText : String
  audioText : String
  tagsText : String
  rejectionsText : String
  protocolName : String
  implementationName : String
  filterStatusName : String
  normalizedTitle : String
  timestamp : DateTime
  deriving DecidableEq

/-- An action status as it is kept. -/
structure StoredStatus extends Attempt where
  statusName : String
  typeName : String
  rejectionsText : String
  timestamp : DateTime
  deriving DecidableEq

/-! ## Writing -/

/-- A release at the given point in time as it is kept. -/
def StoredRelease.ofRelease (r : Release) (timestamp : DateTime) : Except Fault StoredRelease :=
  match timestamp.toNaiveUtc? with
  | none => .error .overflow
  | some t =>
      .ok { toAnnouncement := r.toAnnouncement
            codecText := Json.TextList.encode r.codec
            hdrText := Json.TextList.encode r.hdr
            audioText := Json.TextList.encode r.audio
            tagsText := Json.TextList.encode r.tags
            rejectionsText := Json.TextList.encode r.rejections
            protocolName := r.protocol.name
            implementationName := r.implementation.name
            filterStatusName := r.filterStatus.name
            normalizedTitle := r.projection.title
            timestamp := t }

/-- An action status at the given point in time as it is kept. -/
def StoredStatus.ofStatus (s : ActionStatus) (timestamp : DateTime) : Except Fault StoredStatus :=
  match timestamp.toNaiveUtc? with
  | none => .error .overflow
  | some t =>
      .ok { toAttempt := s.toAttempt
            statusName := s.status.name
            typeName := s.type.name
            rejectionsText := Json.TextList.encode s.rejections
            timestamp := t }

/-- The whole numbers that a kept release holds. -/
def StoredRelease.numbers (r : StoredRelease) : List Int :=
  [r.indexer.id, r.filterId, r.size, r.season, r.episode, r.year, r.month, r.day]

/-- The whole numbers that a kept action status holds. -/
def StoredStatus.numbers (s : StoredStatus) : List Int := [s.releaseId, s.actionId, s.filterId]

/-! ## Reading -/

/-- The label that a name stands for. -/
def readLabel {α : Type} (kind : LabelKind) (ofName? : String → Option α) (name : String) :
    Except Fault α :=
  match ofName? name with
  | some a => .ok a
  | none => .error (.invalidValue (.notALabel kind name))

/-- The texts of a list column. -/
def readTexts (column : String) : Except Fault (List String) :=
  (Json.TextList.decode column).mapError Fault.ofJson

/-- The release of a kept record. -/
def StoredRelease.toRelease (id : Int) (r : StoredRelease) (statuses : List ActionStatus) :
    Except Fault Release := do
  let filterStatus ← readLabel .filterStatus FilterStatus.ofName? r.filterStatusName
  let rejections ← readTexts r.rejectionsText
  let protocol ← readLabel .protocol Protocol.ofName? r.protocolName
  let implementation ← readLabel .implementation Implementation.ofName? r.implementationName
  let codec ← readTexts r.codecText
  let hdr ← readTexts r.hdrText
  let audio ← readTexts r.audioText
  let tags ← readTexts r.tagsText
  return { toAnnouncement := r.toAnnouncement
           codec, hdr, audio, tags, rejections, protocol, implementation, filterStatus
           normalizedTitle := r.normalizedTitle
           timestamp := some r.timestamp.assumeUtc
           actionStatus := statuses
           id }

/-- The action status of a kept record. -/
def StoredStatus.toStatus (id : Int) (s : StoredStatus) : Except Fault ActionStatus := do
  let status ← readLabel .pushStatus PushStatus.ofName? s.statusName
  let type ← readLabel .actionType ActionType.ofName? s.typeName
  let rejections ← readTexts s.rejectionsText
  return { toAttempt := s.toAttempt
           status, type, rejections
           timestamp := some s.timestamp.assumeUtc
           id }

end ReleaseHistory
