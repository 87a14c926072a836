/-
# ReleaseHistory.CommandLine.Command -- the commands and how they are written

Six commands work on releases: list, show, stats, indexers, prune and check-dupe.
`Command.ofWords?` reads one of them with its options; it refuses words that do
not fit, values that are no numbers or no labels, and positional arguments that
are missing or too many.  Every command may name the history it works on.
-/
import ReleaseHistory.CommandLine.Arguments
import ReleaseHistory.Release.Labels

namespace ReleaseHistory.CommandLine

set_option autoImplicit false

/-- What is listed. -/
structure Listing where
  limit : Int
  offset : Int
  search : String
  sort : List String
  indexers : List String
  pushStatus : Option PushStatus
  filterStatus : Option FilterStatus

/-- What is deleted; without an age the retention of the settings counts. -/
structure Pruning where
  olderThanHours : Option Int
  indexers : List String
  statuses : List PushStatus

/-- Which name is checked, and how. -/
structure DupeCheck where
  name : String
  filterId : Int
  profileId : Option Int
  indexer : String
  smartEpisode : Bool
  allowReacquire : Bool

/-- What a command does. -/
inductive Action where
  | list (l : Listing)
  | show (releaseId : Int)
  | stats
  | indexers
  | prune (p : Pruning)
  | checkDupe (d : DupeCheck)

/-- A command with the path of the history it names. -/
structure Command where
  path : Option String
  action : Action

namespace Command

/-! ## The options of each command -/

/-- The options that take a value, and the flags, of a command. -/
def shapes : String → Option (List String × List String)
  | "list" =>
      some (["--db-path", "--limit", "--offset", "--search", "--sort", "--indexer",
        "--push-status", "--filter-status"], [])
  | "show" => some (["--db-path"], [])
  | "stats" => some (["--db-path"], [])
  | "indexers" => some (["--db-path"], [])
  | "prune" => some (["--db-path", "--older-than-hours", "--indexer", "--status"], [])
  | "check-dupe" =>
      some (["--db-path", "--filter-id", "--profile-id", "--indexer"],
        ["--smart-episode", "--no-smart-episode", "--allow-reacquire", "--no-allow-reacquire"])
  | _ => none

/-- The shape of an option among those of a command. -/
def shapeOf (s : List String × List String) (option : String) : Option OptionShape :=
  if s.1.contains option then some .value else if s.2.contains option then some .flag else none

/-! ## Reading a command -/

/-- A label that may be missing but must be one of its kind. -/
def readLabel? {α : Type} (ofName? : String → Option α) : Option String → Option (Option α)
  | none => some none
  | some s => (ofName? s).map some

/-- Whether the last of two opposite flags that was given is the first of them. -/
def switchedOn (g : Given) (on off : String) : Bool := (g.namesAmong [on, off]).getLast? == some on

def readListing (g : Given) : Option Listing := do
  let limit ← readCount 0 (g.value? "--limit")
  let offset ← readCount 0 (g.value? "--offset")
  let pushStatus ← readLabel? PushStatus.ofName? (g.value? "--push-status")
  let filterStatus ← readLabel? FilterStatus.ofName? (g.value? "--filter-status")
  return { limit, offset, pushStatus, filterStatus
           search := (g.value? "--search").getD ""
           sort := g.values "--sort"
           indexers := g.values "--indexer" }

def readPruning (g : Given) : Option Pruning := do
  let age ← readCount 0 (g.value? "--older-than-hours")
  let statuses ← (g.values "--status").mapM PushStatus.ofName?
  return { olderThanHours := (g.value? "--older-than-hours").map fun _ => age
           indexers := g.values "--indexer"
           statuses }

def readDupeCheck (g : Given) (name : String) : Option DupeCheck := do
  let filterId ← readInt 0 (g.value? "--filter-id")
  let profileId ← readInt 0 (g.value? "--profile-id")
  return { name, filterId
           profileId := (g.value? "--profile-id").map fun _ => profileId
           indexer := (g.value? "--indexer").getD ""
           smartEpisode := switchedOn g "--smart-episode" "--no-smart-episode"
           allowReacquire := switchedOn g "--allow-reacquire" "--no-allow-reacquire" }

/-- What a command with the given name, options and positional arguments does. -/
def readAction (name : String) (g : Given) : Option Action :=
  match name, g.positionals with
  | "list", [] => (readListing g).map .list
  | "show", [id] => (Numeral.read? id).map .show
  | "stats", [] => some .stats
  | "indexers", [] => some .indexers
  | "prune", [] => (readPruning g).map .prune
  | "check-dupe", [release] => (readDupeCheck g release).map .checkDupe
  | _, _ => none

/-- The command that a list of words spells. -/
def ofWords? : List String → Option Command
  | [] => none
  | name :: words => do
      let given ← readWords (shapeOf (← shapes name)) words
      return { path := given.value? "--db-path", action := ← readAction name given }

end Command

end ReleaseHistory.CommandLine
