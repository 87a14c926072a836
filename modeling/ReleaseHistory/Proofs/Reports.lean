/-
# ReleaseHistory.Proofs.Reports -- which faults a run of the program reports

`Command.Fails` tells where the faults of a command come from: its settings, the release
that it is about, the history that it opens, and its work there.  A fault that an evaluation
turns into a rejection is none of them.

A fault is to be reported if it is one of the history itself or comes from a value without
meaning (`Fault.IsReportable`).  Every such fault of a command ends the run with its message
(`run_reports`).  What the environment holds is looked at once before, for the log, and
there nothing is reported: a run lets such a fault through exactly where the environment
cannot be read (`Environment.IsReadable`).
-/
import ReleaseHistory.CommandLine.Run
import ReleaseHistory.Proofs.Ledger

namespace ReleaseHistory

set_option autoImplicit false

/-! ## Environments -/

namespace Settings

/-- The variables that hold numbers. -/
def numberVariables : List String :=
  [busyTimeoutVariable, batchSizeVariable, retentionVariable, defaultPageSizeVariable,
    maxPageSizeVariable]

end Settings

namespace Environment

/-- The variable is missing or blank, or it holds a whole number. -/
def HoldsNumber (env : Environment) (name : String) : Prop :=
  ∀ raw, env.lookup name = some raw →
    Text.strip raw = "" ∨ ∃ n, Numeral.read? (Text.strip raw) = some n

/-- The level that the log is set to. -/
def logLevel (env : Environment) : String :=
  Text.upperCase (Text.strip ((env.lookup Settings.logLevelVariable).getD "WARNING"))

/-- Settings can be taken from the environment, and the level it gives is not the name of the
layout of the log. -/
structure IsReadable (env : Environment) : Prop where
  numbers : ∀ name ∈ Settings.numberVariables, env.HoldsNumber name
  level : env.logLevel ≠ Settings.logLayoutName

end Environment

namespace Settings

variable {env : Environment} {path : Option String} {s : Settings}

/-- A number is read from exactly the variables that hold one or nothing. -/
theorem exists_readNumber_iff {name : String} {default : Int} :
    (∃ n, readNumber env name default = .ok n) ↔ env.HoldsNumber name := by
  unfold readNumber Environment.HoldsNumber
  cases env.lookup name with
  | none => simp
  | some raw =>
      by_cases blank : Text.strip raw = ""
      · simp [blank]
      · cases read : Numeral.read? (Text.strip raw) <;> simp [blank, read]

/-- Settings can be taken from an environment whose variables for numbers hold numbers. -/
theorem exists_ofEnvironment_iff :
    (∃ s, ofEnvironment env path = .ok s) ↔ ∀ name ∈ numberVariables, env.HoldsNumber name := by
  simp only [numberVariables, List.forall_mem_cons]
  constructor
  · rintro ⟨s, loaded⟩
    simp only [ofEnvironment, bind_eq_ok_iff] at loaded
    obtain ⟨_, timeout, _, batch, _, retention, _, page, _, greatest, -⟩ := loaded
    exact ⟨exists_readNumber_iff.1 ⟨_, timeout⟩, exists_readNumber_iff.1 ⟨_, batch⟩,
      exists_readNumber_iff.1 ⟨_, retention⟩, exists_readNumber_iff.1 ⟨_, page⟩,
      exists_readNumber_iff.1 ⟨_, greatest⟩, nofun⟩
  · rintro ⟨timeout, batch, retention, page, greatest, -⟩
    obtain ⟨_, timeout⟩ := exists_readNumber_iff.2 timeout
    obtain ⟨_, batch⟩ := exists_readNumber_iff.2 batch
    obtain ⟨_, retention⟩ := exists_readNumber_iff.2 retention
    obtain ⟨_, page⟩ := exists_readNumber_iff.2 page
    obtain ⟨_, greatest⟩ := exists_readNumber_iff.2 greatest
    simp only [ofEnvironment, bind_eq_ok_iff]
    exact ⟨_, _, timeout, _, batch, _, retention, _, page, _, greatest, rfl⟩

theorem logLevel_ofEnvironment (loaded : ofEnvironment env path = .ok s) :
    s.logLevel = env.logLevel := by
  simp only [ofEnvironment, bind_eq_ok_iff] at loaded
  obtain ⟨_, -, _, -, _, -, _, -, _, -, made⟩ := loaded
  rw [← Except.ok.inj made]
  rfl

end Settings

/-! ## Faults to be reported -/

/-- The fault is one of the history itself, or comes from a value without meaning. -/
def Fault.IsReportable (f : Fault) : Prop :=
  (∃ code, f.code? = some code) ∨ f.isValueFault = true

/-- An evaluation ends in a fault if its checks do and the fault is none of the history itself. -/
theorem Database.evaluate_eq_error_iff {db : Database} {clock : DateTime} {k : Checks} {r : Release}
    {f : Fault} :
    (db.evaluate clock k r).outcome = .error f ↔
      ∃ found left, db.rejections { clock } k r.normalize = (found, some f, left) ∧
        f.code? = none := by
  unfold Database.evaluate
  simp only
  generalize db.rejections { clock } k r.normalize = checked
  obtain ⟨found, failure, left⟩ := checked
  cases failure with
  | none => simp [Database.conclude]
  | some g =>
      simp only [Prod.mk.injEq, Option.some.injEq]
      cases coded : g.code? with
      | some code =>
          refine iff_of_false nofun ?_
          rintro ⟨_, _, ⟨-, rfl, -⟩, uncoded⟩
          rw [coded] at uncoded
          cases uncoded
      | none =>
          constructor
          · intro failed
            cases failed
            exact ⟨_, _, ⟨rfl, rfl, rfl⟩, coded⟩
          · rintro ⟨_, _, ⟨-, rfl, -⟩, -⟩
            rfl

namespace CommandLine

theorem Failure.ofFault_of_isReportable {f : Fault} (reportable : f.IsReportable) :
    Failure.ofFault f = .reported f.message := by
  obtain ⟨code, coded⟩ | meaningless := reportable
  · simp [Failure.ofFault, coded]
  · simp [Failure.ofFault, meaningless]

theorem Failure.ofFault_of_not_isReportable {f : Fault} (other : ¬f.IsReportable) :
    Failure.ofFault f = .fault f := by
  obtain ⟨uncoded, meaningful⟩ := not_or.1 other
  have uncoded : f.code? = none := Option.eq_none_iff_forall_ne_some.2 (not_exists.1 uncoded)
  simp [Failure.ofFault, uncoded, meaningful]

/-- Exactly the faults to be reported are, each by its message. -/
theorem Failure.ofFault_eq_reported_iff {f : Fault} {message : String} :
    Failure.ofFault f = .reported message ↔ f.IsReportable ∧ f.message = message := by
  by_cases reportable : f.IsReportable
  · rw [Failure.ofFault_of_isReportable reportable]
    simp [reportable]
  · rw [Failure.ofFault_of_not_isReportable reportable]
    simp [reportable]

theorem Failure.ofFault_eq_fault_iff {f g : Fault} :
    Failure.ofFault f = .fault g ↔ ¬f.IsReportable ∧ f = g := by
  by_cases reportable : f.IsReportable
  · rw [Failure.ofFault_of_isReportable reportable]
    simp [reportable]
  · rw [Failure.ofFault_of_not_isReportable reportable]
    simp [reportable]

/-- A fault to be reported stops a run before its command is read exactly where the environment
cannot be read. -/
theorem exists_startFault_iff {env : Environment} :
    (∃ f : Fault, startFault? env = some f ∧ f.IsReportable) ↔ ¬env.IsReadable := by
  unfold startFault?
  cases loaded : Settings.ofEnvironment env none with
  | error v =>
      have unreadable : ¬env.IsReadable := by
        intro readable
        obtain ⟨s, read⟩ : ∃ s, Settings.ofEnvironment env none = .ok s :=
          Settings.exists_ofEnvironment_iff.2 readable.numbers
        rw [loaded] at read
        cases read
      exact iff_of_true ⟨.invalidValue v, rfl, .inr rfl⟩ unreadable
  | ok s =>
      have numbers := Settings.exists_ofEnvironment_iff.1 ⟨s, loaded⟩
      have level := Settings.logLevel_ofEnvironment loaded
      show (∃ f : Fault, s.logFault? = some f ∧ f.IsReportable) ↔ _
      unfold Settings.logFault?
      rw [level]
      by_cases layout : env.logLevel = Settings.logLayoutName
      · rw [if_pos layout]
        exact iff_of_true ⟨_, rfl, .inr rfl⟩ fun readable => readable.level layout
      · rw [if_neg layout]
        refine iff_of_false ?_ (not_not_intro ⟨numbers, layout⟩)
        rintro ⟨f, refused, reportable⟩
        split at refused
        · cases refused
          obtain ⟨code, coded⟩ | meaningless := reportable
          · cases coded
          · cases meaningless
        · cases refused

/-! ## Where the faults of a command come from -/

/-- The work of a command on a history that has its tables ends in a fault.  A fault of the
checks ends it only if it is none of the history itself; the others reject the release. -/
inductive Action.Fails (db : Database) (clock : DateTime) (s : Settings) (r : Release) :
    Action → Fault → Prop where
  | listing {l f} : (db.find s.pages { clock } l.query).1 = .error f →
      Fails db clock s r (.list l) f
  | showing {id f} : (db.getRelease { clock } id).1 = .error f → Fails db clock s r (.show id) f
  | counting {f} : (db.stats { clock }).1 = .error f → Fails db clock s r .stats f
  | naming {f} : (db.indexers { clock }).1 = .error f → Fails db clock s r .indexers f
  | pruning {p f} :
      (db.purge s.deleteBatchSize { clock }
        { olderThanHours := p.olderThanHours.getD s.retentionHours
          indexers := p.indexers
          statuses := p.statuses }).1 = .error f →
      Fails db clock s r (.prune p) f
  | choosing {d id f} : d.profileId = some id → (db.getProfile { clock } id).1 = .error f →
      Fails db clock s r (.checkDupe d) f
  | checking {d profile read found f left} :
      findProfile db { clock } d.profileId = (.ok profile, read) →
      read.rejections { clock }
        { profile, smartEpisode := d.smartEpisode, allowReacquire := d.allowReacquire }
        r.normalize = (found, some f, left) →
      f.code? = none → Fails db clock s r (.checkDupe d) f

/-- A command is ready for a history: its settings are valid, its release could be read, and
the time that it waits for a lock fits. -/
structure Command.Prepares (c : Command) (w : Surroundings) (s : Settings) (r : Release) :
    Prop where
  settings : c.settings w.environment = .ok s
  release : c.action.release w.report = .ok r
  waits : s.timeoutFits = true

/-- The history that a command works on, with its tables where it can have them. -/
def Command.history (c : Command) (db : Database) (w : Surroundings) (s : Settings) :
    Except Fault Database :=
  if c.namesHistory w.environment then w.openHistory s.databasePath
  else db.initialise.1.map fun _ => db.initialise.2

/-- A command ends in a fault: while its settings are taken or validated, while its release is
read, because the time to wait for a lock does not fit, while the history is opened, or at its
work. -/
inductive Command.Fails (c : Command) (db : Database) (w : Surroundings) : Fault → Prop where
  | loading {v} : Settings.ofEnvironment w.environment c.path = .error v →
      Fails c db w (.invalidValue v)
  | validating {s v} : Settings.ofEnvironment w.environment c.path = .ok s →
      s.validate = .error v → Fails c db w (.invalidValue v)
  | reading {s f} : c.settings w.environment = .ok s → c.action.release w.report = .error f →
      Fails c db w f
  | waiting {s r} : c.settings w.environment = .ok s → c.action.release w.report = .ok r →
      s.timeoutFits = false → Fails c db w .overflow
  | opening {s r f} : c.Prepares w s r → c.history db w s = .error f → Fails c db w f
  | working {s r h f} : c.Prepares w s r → c.history db w s = .ok h →
      c.action.Fails h w.clock s r f → Fails c db w f

section Origins

variable {db : Database} {w : Surroundings} {s : Settings} {r : Release} {f : Fault}

theorem findProfile_eq_error_iff {c : Call} {profileId : Option Int} :
    (findProfile db c profileId).1 = .error f ↔
      ∃ id, profileId = some id ∧ (db.getProfile c id).1 = .error f := by
  cases profileId with
  | none => simp [findProfile]
  | some id =>
      show (db.getProfile c id).1.map some = .error f ↔ _
      simp [map_eq_error_iff]

/-- The work of a command fails in one of the named ways only. -/
theorem Action.perform_eq_error_iff {a : Action} {clock : DateTime} :
    (a.perform db clock s r).1 = .error f ↔ a.Fails db clock s r f := by
  cases a with
  | list l => exact map_eq_error_iff.trans ⟨.listing, fun | .listing failed => failed⟩
  | «show» id => exact map_eq_error_iff.trans ⟨.showing, fun | .showing failed => failed⟩
  | stats => exact map_eq_error_iff.trans ⟨.counting, fun | .counting failed => failed⟩
  | indexers => exact map_eq_error_iff.trans ⟨.naming, fun | .naming failed => failed⟩
  | prune p => exact map_eq_error_iff.trans ⟨.pruning, fun | .pruning failed => failed⟩
  | checkDupe d =>
      show (checkRelease db clock d r).1 = .error f ↔ _
      unfold checkRelease
      cases found : findProfile db { clock } d.profileId with
      | mk outcome read =>
          cases outcome with
          | error g =>
              show (Except.error g : Except Fault (List String)) = .error f ↔ _
              have refused : (findProfile db { clock } d.profileId).1 = .error g := by rw [found]
              constructor
              · intro same
                cases same
                obtain ⟨id, named, missing⟩ := findProfile_eq_error_iff.1 refused
                exact .choosing named missing
              · intro failed
                cases failed with
                | choosing named missing =>
                    rw [findProfile_eq_error_iff.2 ⟨_, named, missing⟩] at refused
                    cases refused
                    rfl
                | checking chosen =>
                    rw [found] at chosen
                    cases chosen
          | ok profile =>
              refine (map_eq_error_iff.trans Database.evaluate_eq_error_iff).trans ⟨?_, ?_⟩
              · rintro ⟨_, _, checked, uncoded⟩
                exact .checking found checked uncoded
              · intro failed
                cases failed with
                | choosing named missing =>
                    have refused := findProfile_eq_error_iff.2 ⟨_, named, missing⟩
                    rw [found] at refused
                    cases refused
                | checking chosen checked uncoded =>
                    rw [found] at chosen
                    cases chosen
                    exact ⟨_, _, checked, uncoded⟩

/-- The settings of a command cannot be taken from the environment, or are not valid. -/
theorem Command.settings_eq_error_iff {c : Command} {env : Environment} :
    c.settings env = .error f ↔
      ∃ v, (Settings.ofEnvironment env c.path = .error v ∨
        ∃ s, Settings.ofEnvironment env c.path = .ok s ∧ s.validate = .error v) ∧
        .invalidValue v = f := by
  simp only [Command.settings, bind_eq_error_iff, mapError_eq_error_iff, mapError_eq_ok_iff]
  constructor
  · rintro (⟨v, refused, same⟩ | ⟨s, loaded, ⟨v, refused, same⟩ | ⟨_, _, impossible⟩⟩)
    · exact ⟨v, .inl refused, same⟩
    · exact ⟨v, .inr ⟨s, loaded, refused⟩, same⟩
    · cases impossible
  · rintro ⟨v, refused | ⟨s, loaded, refused⟩, same⟩
    · exact .inl ⟨v, refused, same⟩
    · exact .inr ⟨s, loaded, .inl ⟨v, refused, same⟩⟩

/-- A command that is ready opens the history and works on it. -/
theorem Command.run_of_prepares {c : Command} (ready : c.Prepares w s r) :
    (c.run db w).1 = (c.history db w s >>= fun h => (c.action.perform h w.clock s r).1) := by
  unfold Command.run Command.history
  simp only [ready.settings, ready.release, ready.waits, Bool.not_true, Bool.false_eq_true, if_false]
  split
  · cases w.openHistory s.databasePath <;> rfl
  · cases db.initialise with
    | mk outcome made => cases outcome <;> rfl

/-- A command fails in one of the named ways only. -/
theorem Command.run_eq_error_iff {c : Command} :
    (c.run db w).1 = .error f ↔ c.Fails db w f := by
  constructor
  · intro failed
    cases settings : c.settings w.environment with
    | error g =>
        simp only [Command.run, settings] at failed
        cases failed
        obtain ⟨v, refused | ⟨s, loaded, refused⟩, rfl⟩ := Command.settings_eq_error_iff.1 settings
        · exact .loading refused
        · exact .validating loaded refused
    | ok s =>
        cases release : c.action.release w.report with
        | error g =>
            simp only [Command.run, settings, release] at failed
            cases failed
            exact .reading settings release
        | ok r =>
            cases waits : s.timeoutFits with
            | false =>
                simp only [Command.run, settings, release, waits] at failed
                cases failed
                exact .waiting settings release waits
            | true =>
                have ready : c.Prepares w s r := ⟨settings, release, waits⟩
                rw [Command.run_of_prepares ready, bind_eq_error_iff] at failed
                obtain closed | ⟨h, opened, failed⟩ := failed
                · exact .opening ready closed
                · exact .working ready opened (Action.perform_eq_error_iff.1 failed)
  · intro failed
    cases failed with
    | loading refused =>
        have settings := Command.settings_eq_error_iff.2 ⟨_, .inl refused, rfl⟩
        simp only [Command.run, settings]
    | validating loaded refused =>
        have settings := Command.settings_eq_error_iff.2 ⟨_, .inr ⟨_, loaded, refused⟩, rfl⟩
        simp only [Command.run, settings]
    | reading settings release => simp only [Command.run, settings, release]
    | waiting settings release waits => simp [Command.run, settings, release, waits]
    | opening ready closed =>
        rw [Command.run_of_prepares ready, bind_eq_error_iff]
        exact .inl closed
    | working ready opened failed =>
        rw [Command.run_of_prepares ready, bind_eq_error_iff]
        exact .inr ⟨_, opened, Action.perform_eq_error_iff.2 failed⟩

end Origins

/-! ## Runs of the program -/

/-- The words go on to the commands about releases. -/
def LeadsToReleases (words : List String) : Prop :=
  ∃ rest, readGroup ["--version"] words = some ([], "releases" :: rest)

/-- The words spell a command, and the run comes to it. -/
def Reaches (env : Environment) (words : List String) (c : Command) : Prop :=
  startFault? env = none ∧ ∃ rest, readGroup ["--version"] words = some ([], "releases" :: rest) ∧
    readReleasesGroup rest = some c

section Runs

variable {db : Database} {w : Surroundings} {words : List String}

theorem run_of_startFault {f : Fault} (leads : LeadsToReleases words)
    (stopped : startFault? w.environment = some f) :
    (run db w words).1 = .error (.fault f) := by
  obtain ⟨rest, read⟩ := leads
  simp only [run, read, stopped]

theorem run_of_reaches {c : Command} (reached : Reaches w.environment words c) :
    (run db w words).1 =
      ((c.run db w).1.map (·.flatMap printedLines)).mapError Failure.ofFault := by
  obtain ⟨starts, rest, read, spelled⟩ := reached
  simp only [run, read, starts, spelled]

/-- A run stops before its command, comes to it, or is one that needs no command. -/
theorem run_cases (db : Database) (w : Surroundings) (words : List String) :
    (LeadsToReleases words ∧ ∃ f, startFault? w.environment = some f) ∨
      (∃ c, Reaches w.environment words c) ∨
      (run db w words).1 = .error .usage ∨ (run db w words).1 = .ok [versionLine] := by
  unfold run
  split
  · exact .inr (.inr (.inl rfl))
  · exact .inr (.inr (.inr rfl))
  · next rest read =>
      split
      · next f stopped => exact .inl ⟨⟨rest, read⟩, f, stopped⟩
      · next starts =>
          split
          · exact .inr (.inr (.inl rfl))
          · next c spelled => exact .inr (.inl ⟨c, starts, rest, read, spelled⟩)
  · exact .inr (.inr (.inl rfl))

/-- A run fails as its start does, or as the command that it comes to. -/
theorem run_eq_error_iff {e : Failure} (spelled : e ≠ .usage) :
    (run db w words).1 = .error e ↔
      (LeadsToReleases words ∧ ∃ f, startFault? w.environment = some f ∧ .fault f = e) ∨
        ∃ c f, Reaches w.environment words c ∧ c.Fails db w f ∧ Failure.ofFault f = e := by
  have command {c : Command} (reached : Reaches w.environment words c) :
      (run db w words).1 = .error e ↔ ∃ f, c.Fails db w f ∧ Failure.ofFault f = e := by
    simp only [run_of_reaches reached, mapError_eq_error_iff, map_eq_error_iff,
      Command.run_eq_error_iff]
  constructor
  · intro failed
    obtain ⟨leads, f, stopped⟩ | ⟨c, reached⟩ | ended | ended := run_cases db w words
    · rw [run_of_startFault leads stopped] at failed
      exact .inl ⟨leads, f, stopped, Except.error.inj failed⟩
    · obtain ⟨f, fails, same⟩ := (command reached).1 failed
      exact .inr ⟨c, f, reached, fails, same⟩
    · rw [ended] at failed
      exact absurd (Except.error.inj failed).symm spelled
    · rw [ended] at failed
      cases failed
  · rintro (⟨leads, f, stopped, rfl⟩ | ⟨c, f, reached, fails, same⟩)
    · exact run_of_startFault leads stopped
    · exact (command reached).2 ⟨f, fails, same⟩

/-- A fault to be reported is let through before the command is read, or not at all. -/
theorem exists_run_eq_fault_iff :
    (∃ f : Fault, f.IsReportable ∧ (run db w words).1 = .error (.fault f)) ↔
      LeadsToReleases words ∧ ¬w.environment.IsReadable := by
  constructor
  · rintro ⟨f, reportable, escaped⟩
    have spelled : Failure.fault f ≠ .usage := nofun
    obtain ⟨leads, g, stopped, same⟩ | ⟨c, g, -, -, same⟩ := (run_eq_error_iff spelled).1 escaped
    · cases same
      exact ⟨leads, exists_startFault_iff.1 ⟨f, stopped, reportable⟩⟩
    · obtain ⟨other, rfl⟩ := Failure.ofFault_eq_fault_iff.1 same
      exact absurd reportable other
  · rintro ⟨leads, unreadable⟩
    obtain ⟨f, stopped, reportable⟩ := exists_startFault_iff.2 unreadable
    exact ⟨f, reportable, run_of_startFault leads stopped⟩

/-- What a run reports is the fault of its command. -/
theorem run_eq_reported_iff {message : String} :
    (run db w words).1 = .error (.reported message) ↔
      ∃ c f, Reaches w.environment words c ∧ c.Fails db w f ∧ f.IsReportable ∧
        f.message = message := by
  have spelled : Failure.reported message ≠ .usage := nofun
  rw [run_eq_error_iff spelled]
  constructor
  · rintro (⟨-, f, -, impossible⟩ | ⟨c, f, reached, failed, same⟩)
    · cases impossible
    · exact ⟨c, f, reached, failed, Failure.ofFault_eq_reported_iff.1 same⟩
  · rintro ⟨c, f, reached, failed, reportable, same⟩
    exact .inr ⟨c, f, reached, failed, Failure.ofFault_eq_reported_iff.2 ⟨reportable, same⟩⟩

end Runs

/-- A run lets a fault that is to be reported through exactly where its words go on to the
commands about releases and the environment cannot be read.  It reports exactly the faults
to be reported in which the command ends that it comes to. -/
theorem run_reports (db : Database) (w : Surroundings) (words : List String) :
    ((∃ f : Fault, f.IsReportable ∧ (run db w words).1 = .error (.fault f)) ↔
        LeadsToReleases words ∧ ¬w.environment.IsReadable) ∧
      ∀ message, (run db w words).1 = .error (.reported message) ↔
        ∃ c f, Reaches w.environment words c ∧ c.Fails db w f ∧ f.IsReportable ∧
          f.message = message :=
  ⟨exists_run_eq_fault_iff, fun _ => run_eq_reported_iff⟩

/-- Surroundings with the given variables. -/
def Surroundings.inMay (environment : Environment) : Surroundings where
  clock := Call.inMay.clock
  environment

/-- A retention below zero is reported. -/
theorem run_reports_retention :
    (run .initialised (.inMay [(Settings.retentionVariable, " -3 ")]) ["releases", "stats"]).1 =
      .error (.reported "RELEASE_GUARD_RETENTION_HOURS must be >= 0.") := by
  have spelled : Reaches [(Settings.retentionVariable, " -3 ")] ["releases", "stats"]
      ⟨none, .stats⟩ := ⟨by decide +kernel, ["stats"], by decide +kernel, rfl⟩
  exact ((run_reports _ _ _).2 _).2
    ⟨_, .invalidValue (.negative Settings.retentionVariable), spelled, .validating rfl rfl,
      .inr rfl, rfl⟩

/-- A waiting time that is no number is let through, though its fault is to be reported. -/
theorem not_reported_busyTimeout :
    let f : Fault := .invalidValue (.notAnInteger Settings.busyTimeoutVariable "x")
    f.IsReportable ∧
      f.message = "Invalid integer value for RELEASE_GUARD_BUSY_TIMEOUT_MS: 'x'" ∧
      (run .initialised (.inMay [(Settings.busyTimeoutVariable, "x")]) ["releases", "stats"]).1 =
        .error (.fault f) := by
  intro f
  refine ⟨.inr rfl, by decide +kernel, ?_⟩
  exact run_of_startFault ⟨["stats"], by decide +kernel⟩ (by decide +kernel)

end CommandLine

end ReleaseHistory
