/-
# ReleaseHistory.CommandLine.Run -- running a command on a history

A run reads the words in three steps: options of the program, the group of
commands, the command.  Between the first two the settings are taken from the
environment and the log is set up; a variable that is no number ends the run
there, and so does what the log refuses as a level.  The command then takes and
validates the settings, makes the tables of the history where they are missing,
and does its work.  The history is the one at hand, unless a path is
given by an option or a variable.

A fault of the history and a value without meaning are reported by their message;
other faults end the run.
-/
import ReleaseHistory.CommandLine.Command
import ReleaseHistory.CommandLine.Report
import ReleaseHistory.Recognition
import ReleaseHistory.Settings.Environment
import ReleaseHistory.Settings.Location
import ReleaseHistory.Store.Profile
import ReleaseHistory.Store.Purge
import ReleaseHistory.Text.ControlSequence

namespace ReleaseHistory.CommandLine

set_option autoImplicit false

/-- How a run fails: by words that make no command, by a message for the user, or by
a fault that is not reported. -/
inductive Failure where
  | usage
  | reported (message : String)
  | fault (f : Fault)

/-- What surrounds a run: the time, the variables, what the recogniser reports on the
release name of the command, and the paths under which a history can be kept. -/
structure Surroundings where
  clock : DateTime
  environment : Environment := []
  report : Value := .record []
  canOpen : String → Bool := fun _ => true

/-- The version line of the program. -/
def versionLine : String := "release-guard, version 0.1.0"

/-- A fault of a command as a failure of the run. -/
def Failure.ofFault (f : Fault) : Failure :=
  if f.code?.isSome || f.isValueFault then .reported f.message else .fault f

/-! ## Commands -/

/-- The lines of an outcome. -/
def linesOf {α : Type} (lines : α → List String) (result : Except Fault α × Database) :
    Except Fault (List String) × Database :=
  (result.1.map lines, result.2)

/-- The profile with the given id, if one is given. -/
def findProfile (db : Database) (c : Call) :
    Option Int → Except Fault (Option Profile) × Database
  | none => (.ok none, db)
  | some id =>
      let (found, db) := db.getProfile c id
      (found.map some, db)

/-- Check a recognised release against the history. -/
def checkRelease (db : Database) (clock : DateTime) (d : DupeCheck) (r : Release) :
    Except Fault (List String) × Database :=
  match findProfile db { clock } d.profileId with
  | (.error f, db) => (.error f, db)
  | (.ok profile, db) =>
      let checks : Checks :=
        { profile, smartEpisode := d.smartEpisode, allowReacquire := d.allowReacquire }
      let e := db.evaluate clock checks r
      (e.outcome.map (verdictLines e.release profile), e.database)

/-- The query of a listing. -/
def Listing.query (l : Listing) : Query where
  limit := l.limit
  offset := l.offset
  search := l.search
  sort := (SortOrder.ofOptions l.sort).map fun (key, direction) => (key, some direction)
  indexers := l.indexers
  pushStatus := l.pushStatus
  filterStatus := l.filterStatus

/-- The work of a command on a history that has its tables. -/
def Action.perform (a : Action) (db : Database) (clock : DateTime) (s : Settings) (r : Release) :
    Except Fault (List String) × Database :=
  match a with
  | .list l => linesOf (pageLines l.offset) (db.find s.pages { clock } l.query)
  | .show id => linesOf releaseLines (db.getRelease { clock } id)
  | .stats => linesOf statsLines (db.stats { clock })
  | .indexers => linesOf indexerLines (db.indexers { clock })
  | .prune p =>
      let olderThanHours := p.olderThanHours.getD s.retentionHours
      let purge : Purge := { olderThanHours, indexers := p.indexers, statuses := p.statuses }
      linesOf (pruneLines olderThanHours) (db.purge s.deleteBatchSize { clock } purge)
  | .checkDupe d => checkRelease db clock d r

/-- The release that a command is about; an empty one for a command about none. -/
def Action.release (a : Action) (report : Value) : Except Fault Release :=
  match a with
  | .checkDupe d =>
      (Release.ofReport d.name report { identifier := d.indexer } .torrent).map
        fun r => { r with filterId := d.filterId }
  | _ => .ok {}

/-- The settings of a command. -/
def Command.settings (c : Command) (env : Environment) : Except Fault Settings := do
  let s ← (Settings.ofEnvironment env c.path).mapError .invalidValue
  s.validate.mapError .invalidValue
  return s

/-- The command or the environment names the history to work on. -/
def Command.namesHistory (c : Command) (env : Environment) : Bool :=
  c.path.isSome || (env.lookup Settings.pathVariable).isSome

/-- The history found under a path: an empty one, with its tables if they last. -/
def Surroundings.openHistory (w : Surroundings) (path : String) : Except Fault Database :=
  if path = Location.memoryPath then .ok {}
  else if !w.canOpen path then .error .storeFailure
  else
    match Location.templateFault? path with
    | some v => .error (.invalidValue v)
    | none => .ok (if Location.keepsTables path then .initialised else {})

/-- Run a command.  A command that names a history leaves the one at hand alone. -/
def Command.run (c : Command) (db : Database) (w : Surroundings) :
    Except Fault (List String) × Database :=
  match c.settings w.environment, c.action.release w.report with
  | .error f, _ => (.error f, db)
  | .ok _, .error f => (.error f, db)
  | .ok s, .ok r =>
      if !s.timeoutFits then (.error .overflow, db)
      else if c.namesHistory w.environment then
        match w.openHistory s.databasePath with
        | .error f => (.error f, db)
        | .ok other => ((c.action.perform other w.clock s r).1, db)
      else
        match db.initialise with
        | (.error f, db) => (.error f, db)
        | (.ok (), db) => c.action.perform db w.clock s r

/-! ## The program -/

/-- Why a run ends before its command is read. -/
def startFault? (env : Environment) : Option Fault :=
  match Settings.ofEnvironment env none with
  | .error v => some (.invalidValue v)
  | .ok s => s.logFault?

/-- The command that follows the group of commands about releases. -/
def readReleasesGroup (words : List String) : Option Command :=
  match readGroup [] words with
  | some (_, words) => Command.ofWords? words
  | none => none

/-- The lines that a text fills when it is printed: control sequences are left out, and a
line feed starts a new line. -/
def printedLines (s : String) : List String :=
  (Text.pieces (fun c => c != '\n') (Text.withoutSequences s.toList)).map String.ofList

/-- Run the program with the given words. -/
def run (db : Database) (w : Surroundings) (words : List String) :
    Except Failure (List String) × Database :=
  match readGroup ["--version"] words with
  | none => (.error .usage, db)
  | some (_ :: _, _) => (.ok [versionLine], db)
  | some ([], "releases" :: words) =>
      match startFault? w.environment with
      | some f => (.error (.fault f), db)
      | none =>
          match readReleasesGroup words with
          | none => (.error .usage, db)
          | some command =>
              let (outcome, db) := command.run db w
              ((outcome.map (·.flatMap printedLines)).mapError Failure.ofFault, db)
  | some ([], _) => (.error .usage, db)

end ReleaseHistory.CommandLine
