/-
# ReleaseHistory.CommandLine.Report -- the lines that commands print

Where a text is empty or a list has no entries a dash stands for it.  Dates are
written with four, two and two digits, zeros included.
-/
import ReleaseHistory.Evaluation
import ReleaseHistory.Search.Overview
import ReleaseHistory.Search.Query

namespace ReleaseHistory.CommandLine

set_option autoImplicit false

open Numeral (write writePadded)

/-- A text, or a dash for an empty one. -/
def orDash (s : String) : String := if s = "" then "-" else s

/-- Texts with commas between, or a dash for none. -/
def listOrDash (ss : List String) : String := orDash (",".intercalate ss)

/-- A point in time, or a dash for none. -/
def timeOrDash (t : Option DateTime) : String := (t.map DateTime.write).getD "-"

def yesNo (b : Bool) : String := if b then "yes" else "no"

/-- A release in one line. -/
def releaseLine (r : Release) : String :=
  "  " ++ write r.id ++ " " ++ r.torrentName ++ " indexer=" ++ orDash r.indexer.identifier ++
    " filter_status=" ++ r.filterStatus.name ++ " actions=" ++
    listOrDash (r.actionStatus.map fun s => s.status.name) ++ " timestamp=" ++
    timeOrDash r.timestamp

/-- A page of releases that starts at the given offset. -/
def pageLines (offset : Int) (p : Page) : List String :=
  ("Releases: total=" ++ write p.totalCount ++ " shown=" ++ write p.releases.length ++
    " offset=" ++ write offset ++ " next_cursor=" ++ write p.nextCursor) ::
    p.releases.map releaseLine

/-- An action status in one line. -/
def statusLine (s : ActionStatus) : String :=
  "    " ++ write s.id ++ " action=" ++ s.action ++ " type=" ++ s.type.name ++ " status=" ++
    s.status.name ++ " client=" ++ orDash s.client

/-- A release in full. -/
def releaseLines (r : Release) : List String :=
  [ "Release " ++ write r.id ++ ": " ++ r.torrentName,
    "  title=" ++ orDash r.title ++ " sub_title=" ++ orDash r.subTitle,
    "  season=" ++ write r.season ++ " episode=" ++ write r.episode ++ " date=" ++
      writePadded 4 r.year ++ "-" ++ writePadded 2 r.month ++ "-" ++ writePadded 2 r.day,
    "  resolution=" ++ orDash r.resolution ++ " source=" ++ orDash r.source ++ " codec=" ++
      listOrDash r.codec ++ " hdr=" ++ listOrDash r.hdr ++ " audio=" ++ listOrDash r.audio ++
      " group=" ++ orDash r.group,
    "  proper=" ++ yesNo r.proper ++ " repack=" ++ yesNo r.repack ++ " protocol=" ++
      r.protocol.name,
    "  indexer=" ++ orDash r.indexer.identifier ++ " filter=" ++ orDash r.filterName ++
      " filter_status=" ++ r.filterStatus.name ++ " timestamp=" ++ timeOrDash r.timestamp ] ++
    (if r.rejections.isEmpty then [] else ["  rejections=" ++ "; ".intercalate r.rejections]) ++
    (if r.actionStatus.isEmpty then ["  actions: none"]
      else "  actions:" :: r.actionStatus.map statusLine)

/-- The counts of a history. -/
def statsLines (s : Stats) : List String :=
  [ "Releases: total=" ++ write s.total ++ " filtered=" ++ write s.filtered ++
      " filter_rejected=" ++ write s.filterRejected,
    "Actions: approved=" ++ write s.pushApproved ++ " rejected=" ++ write s.pushRejected ++
      " error=" ++ write s.pushErrors ]

/-- The indexers of a history. -/
def indexerLines (identifiers : List String) : List String :=
  if identifiers.isEmpty then ["No indexers recorded."] else identifiers

/-- The number of deleted releases and what was asked for. -/
def pruneLines (olderThanHours : Int) (deleted : Nat) : List String :=
  [ "Releases deleted: " ++ write deleted ++ " (" ++
      (if 0 < olderThanHours then "older_than_hours=" ++ write olderThanHours else "all") ++ ")" ]

/-- The verdict on a release under a profile. -/
def verdictLines (r : Release) (profile : Option Profile) (v : Verdict) : List String :=
  [ "Parsed: title=" ++ orDash r.title ++ " season=" ++ write r.season ++ " episode=" ++
      write r.episode ++ " resolution=" ++ orDash r.resolution ++ " group=" ++ orDash r.group,
    "Profile: " ++ (profile.map fun p => p.name).getD "-",
    "Decision: " ++ (if v.accepted then "accept" else "reject") ] ++
    v.rejections.map fun reason => "  rejection=" ++ reason

end ReleaseHistory.CommandLine
