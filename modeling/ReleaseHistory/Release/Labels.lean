/-
# ReleaseHistory.Release.Labels -- the fixed labels of a release and of its actions

Each kind of label is a finite list; a label is written by its name, and the names
of one kind differ.  `ofName?` reads a name back.
-/

namespace ReleaseHistory

set_option autoImplicit false

/-! ## Labels of a release -/

/-- How the files of a release are fetched. -/
inductive Protocol where
  | torrent
  | usenet
  deriving DecidableEq, Repr

/-- How a release was announced. -/
inductive Implementation where
  | irc
  | rss
  | torznab
  | newznab
  deriving DecidableEq, Repr

/-- What the filter made of a release. -/
inductive FilterStatus where
  | pending
  | approved
  | rejected
  deriving DecidableEq, Repr

namespace Protocol

def all : List Protocol := [.torrent, .usenet]

def name : Protocol → String
  | .torrent => "torrent"
  | .usenet => "usenet"

/-- The label with the given name. -/
def ofName? (s : String) : Option Protocol := all.find? (·.name == s)

theorem ofName?_name (p : Protocol) : ofName? p.name = some p := by
  cases p <;> decide

end Protocol

namespace Implementation

def all : List Implementation := [.irc, .rss, .torznab, .newznab]

def name : Implementation → String
  | .irc => "irc"
  | .rss => "rss"
  | .torznab => "torznab"
  | .newznab => "newznab"

/-- The label with the given name. -/
def ofName? (s : String) : Option Implementation := all.find? (·.name == s)

theorem ofName?_name (i : Implementation) : ofName? i.name = some i := by
  cases i <;> decide

end Implementation

namespace FilterStatus

def all : List FilterStatus := [.pending, .approved, .rejected]

def name : FilterStatus → String
  | .pending => "pending"
  | .approved => "approved"
  | .rejected => "rejected"

/-- The label with the given name. -/
def ofName? (s : String) : Option FilterStatus := all.find? (·.name == s)

theorem ofName?_name (f : FilterStatus) : ofName? f.name = some f := by
  cases f <;> decide

end FilterStatus

/-! ## Labels of an action -/

/-- How one attempt to act on a release ended. -/
inductive PushStatus where
  | pending
  | approved
  | rejected
  | error
  deriving DecidableEq, Repr

/-- What an action does with an approved release. -/
inductive ActionType where
  | test
  | exec
  | watchFolder
  | webhook
  | qbittorrent
  | deluge
  | rtorrent
  | transmission
  | sabnzbd
  | radarr
  | sonarr
  | lidarr
  | readarr
  deriving DecidableEq, Repr

namespace PushStatus

def all : List PushStatus := [.pending, .approved, .rejected, .error]

def name : PushStatus → String
  | .pending => "pending"
  | .approved => "approved"
  | .rejected => "rejected"
  | .error => "error"

/-- The label with the given name. -/
def ofName? (s : String) : Option PushStatus := all.find? (·.name == s)

theorem ofName?_name (p : PushStatus) : ofName? p.name = some p := by
  cases p <;> decide

end PushStatus

namespace ActionType

def all : List ActionType :=
  [.test, .exec, .watchFolder, .webhook, .qbittorrent, .deluge, .rtorrent, .transmission,
    .sabnzbd, .radarr, .sonarr, .lidarr, .readarr]

def name : ActionType → String
  | .test => "test"
  | .exec => "exec"
  | .watchFolder => "watch_folder"
  | .webhook => "webhook"
  | .qbittorrent => "qbittorrent"
  | .deluge => "deluge"
  | .rtorrent => "rtorrent"
  | .transmission => "transmission"
  | .sabnzbd => "sabnzbd"
  | .radarr => "radarr"
  | .sonarr => "sonarr"
  | .lidarr => "lidarr"
  | .readarr => "readarr"

/-- The label with the given name. -/
def ofName? (s : String) : Option ActionType := all.find? (·.name == s)

theorem ofName?_name (t : ActionType) : ofName? t.name = some t := by
  cases t <;> decide

end ActionType

end ReleaseHistory
