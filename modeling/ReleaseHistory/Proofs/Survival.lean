/-
# ReleaseHistory.Proofs.Survival -- what is kept is what is read, until it is deleted

`Operation.Deletes` says that an operation deletes the release under an id: only a deletion of
that id and a purge that the release matches do so.  `Run.Keeps` says of a run that it kept a
release under an id and has not deleted it since.

* A step that does not delete a release leaves its record as it is (`Operation.get?_of_spared`), so
  the record stays what the release was kept as (`Keeps.record`).
* Reading gives it back as it was handed over, up to its canonical title, its time in UTC, its
  id, and its statuses, which are those that are listed for it (`Run.read_of_keeps`).
-/
import ReleaseHistory.Proofs.Legibility
import ReleaseHistory.Proofs.Purge

namespace ReleaseHistory

set_option autoImplicit false

/-! ## What deletes a release -/

namespace Operation

variable {o : Operation} {c : Call} {db : Database} {ts : Tables} {id : Int} {row : StoredRelease}

/-- The operation deletes the release under the id: it is its deletion, or a purge that the
release matches and that does not leave it. -/
def Deletes (o : Operation) (c : Call) (db : Database) (id : Int) : Prop :=
  match o with
  | .deleteRelease k => k = id ∧ (db.deleteRelease c k).1 = .ok true
  | .purge size p =>
      (∃ ts row, db.tables = some ts ∧ ts.releases.get? id = some row ∧ p.Matches c ts (id, row)) ∧
        (db.purge size c p).2.holds id = false
  | _ => False

/-- Deleting another release leaves the record. -/
theorem get?_deleteRelease {k : Int} (found : db.tables = some ts)
    (held : ts.releases.get? id = some row) (spared : ¬(deleteRelease k).Deletes c db id) :
    ∃ ts', ((deleteRelease k).perform c db).tables = some ts' ∧ ts'.releases.get? id = some row := by
  obtain same | ran := Database.deleteRelease_cases found c k
  · exact ⟨ts, (congrArg Database.tables same).trans found, held⟩
  · have other : id ∉ [k] := by
      intro own
      exact spared ⟨(List.mem_singleton.1 own).symm, congrArg Prod.fst ran⟩
    refine ⟨_, congrArg (·.2.tables) ran, ?_⟩
    rw [Tables.get?_dropReleases, if_neg other]
    exact held

/-- A purge that does not delete the release leaves its record. -/
theorem get?_purge {l : Ledger} (faithful : l.Faithful ts) {size : Int} {p : Purge}
    (found : db.tables = some ts) (held : ts.releases.get? id = some row)
    (spared : ¬(purge size p).Deletes c db id) :
    ∃ ts', ((purge size p).perform c db).tables = some ts' ∧ ts'.releases.get? id = some row := by
  obtain ⟨ids, matched, left⟩ := Purge.exists_drops faithful p size c found
  have other : id ∉ ids := by
    intro dropped
    obtain ⟨⟨k, row'⟩, held', rfl, selected⟩ := matched id dropped
    have same : row' = row :=
      Option.some.inj ((ts.releases.get?_eq_some_iff.2 held').symm.trans held)
    -- a release that is dropped is gone, which is what deleting it means
    refine spared ⟨⟨ts, row, found, held, same ▸ selected⟩, ?_⟩
    rw [left]
    show (ts.dropReleases ids).releases.contains k = false
    rw [Table.contains_eq_false_iff, Tables.get?_dropReleases, if_pos dropped]
  refine ⟨ts.dropReleases ids, by rw [perform, left], ?_⟩
  rw [Tables.get?_dropReleases, if_neg other]
  exact held

/-- An operation that does not delete a release leaves its record as it is. -/
theorem get?_of_spared {l : Ledger} (faithful : l.Faithful ts) (found : db.tables = some ts)
    (held : ts.releases.get? id = some row) (spared : ¬o.Deletes c db id) :
    ∃ ts', (o.perform c db).tables = some ts' ∧ ts'.releases.get? id = some row := by
  have unchanged (same : o.perform c db = db) :
      ∃ ts', (o.perform c db).tables = some ts' ∧ ts'.releases.get? id = some row :=
    ⟨ts, by rw [same, found], held⟩
  cases o with
  | store r =>
      obtain ⟨f, -, same⟩ | ⟨kept, row', ran, -, -, free, -⟩ := Database.store_cases found c r
      · exact unchanged same
      · have other : id ≠ kept.id := by
          rintro rfl
          rw [Table.contains_iff.2 ⟨row, held⟩] at free
          cases free
        refine ⟨_, congrArg (·.database.tables) ran, ?_⟩
        rw [Table.get?_insert, if_neg other]
        exact held
  | storeStatus s =>
      obtain ⟨f, -, same⟩ | ⟨logged, row', ran, -⟩ := Database.storeStatus_cases found c s
      · exact unchanged same
      · refine ⟨_, congrArg (·.database.tables) ran, ?_⟩
        exact held
  | storeProfile p =>
      obtain ⟨kept, left⟩ := perform_storeProfile p found
      exact ⟨_, congrArg Database.tables left, held⟩
  | deleteProfile k =>
      obtain ⟨kept, left⟩ := perform_deleteProfile k found
      exact ⟨_, congrArg Database.tables left, held⟩
  | deleteRelease k => exact get?_deleteRelease found held spared
  | purge size p => exact get?_purge faithful found held spared
  | initialise =>
      apply unchanged
      simp only [perform, Database.initialise, found]
  | getRelease k => exact unchanged (Database.getRelease_snd k)
  | getStatus k => exact unchanged (Database.getStatus_snd k)
  | listStatuses k => exact unchanged (Database.listStatuses_snd k)
  | getProfile k => exact unchanged (Database.getProfile_snd k)
  | listProfiles => exact unchanged Database.listProfiles_snd
  | isDuplicate p r => exact unchanged (Database.isDuplicate_snd p r)
  | mayDownload a again => exact unchanged (Database.mayDownload_snd a again)
  | find s q => exact unchanged (Database.find_snd s q)
  | stats => exact unchanged Database.stats_snd
  | indexers => exact unchanged Database.indexers_snd

end Operation

/-! ## Runs that keep a release -/

/-- The time that a write takes is that of its object, or what the clock shows. -/
theorem Call.instant_of_stamp {c : Call} {timestamp : Option DateTime} {t : DateTime}
    (stamped : c.stamp timestamp = .ok t) : t.instant = (timestamp.getD c.clock).instant := by
  cases timestamp with
  | some u =>
      obtain rfl := Except.ok.inj stamped
      rfl
  | none =>
      have told : readClock c.clock = .ok t := stamped
      unfold readClock at told
      cases shown : c.clock.toAwareUtc? with
      | none =>
          rw [shown] at told
          cases told
      | some now =>
          rw [shown] at told
          obtain rfl := Except.ok.inj told
          exact (DateTime.of_toAwareUtc?_eq_some shown).2

namespace Run

/-- The run kept the release under the id while the clock showed the given time, and has not
deleted it since. -/
inductive Keeps (r : Release) (id : Int) (clock : DateTime) : Run → Prop where
  | stored {s : Step} {run : Run} {kept : Release} {db : Database} (operation : s.operation = .store r)
      (time : s.call.clock = clock)
      (done : (s.before (Run.database run)).store s.call r = ⟨.ok id, kept, db⟩) :
      Keeps r id clock (s :: run)
  | spared {s : Step} {run : Run} (before : Keeps r id clock run)
      (spared : ¬s.operation.Deletes s.call (s.before (Run.database run)) id) :
      Keeps r id clock (s :: run)

/-- A release that a run keeps has its record, which stays as it was written. -/
theorem Keeps.record {run : Run} {r : Release} {id : Int} {clock : DateTime}
    (keeps : Keeps r id clock run) :
    ∃ ts row t, Run.database run = { tables := some ts } ∧ ts.releases.get? id = some row ∧
      ({ r with timestamp := some t, id } : Release).KeptAs row ∧
      t.instant = (r.timestamp.getD clock).instant := by
  induction keeps with
  | @stored s run kept db operation time done =>
      obtain ⟨t, row, ts, stamped, rfl, written, -, -, -, -, -, -, -, -, rfl⟩ :=
        Database.store_ok_iff.1 done
      refine ⟨{ ts with releases := ts.releases.insert id row }, row, t, ?_, ?_, ⟨t, rfl, written⟩, ?_⟩
      · rw [Run.database, Step.after, operation, Operation.perform, done]
      · rw [Table.get?_insert, if_pos rfl]
      · rw [Call.instant_of_stamp stamped, time]
  | @spared s run before spared ih =>
      obtain ⟨ts, row, t, database, held, kept, instant⟩ := ih
      obtain ⟨us, database', faithful⟩ := Run.faithful run
      obtain rfl : ts = us := by simpa using database.symm.trans database'
      obtain ⟨ts', left, held'⟩ :=
        Operation.get?_of_spared faithful (s.tables_before database) held spared
      refine ⟨ts', row, t, ?_, held', kept, instant⟩
      rw [Run.database, Step.after, left]

/-- What a run kept is what is read, as long as it is not deleted: with the title by which the
release is compared, the time at which it was kept in UTC, its id, and the statuses that are
listed for it.  No two releases have the same id, and nothing that is asked of the history
fails because a label or a list of a record cannot be read. -/
theorem read_of_keeps (run : Run) (locked : Bool) :
    (∀ r id clock, Keeps r id clock run → ∀ c : Call, c.check 1 = .ok () →
      ∃ t statuses,
        ({ run.database with locked } : Database).getRelease c id =
          (.ok { r with
              normalizedTitle := r.projection.title
              timestamp := some t
              actionStatus := statuses
              id }, { run.database with locked }) ∧
        ({ run.database with locked } : Database).listStatuses c id =
          (.ok statuses, { run.database with locked }) ∧
        t.offset = some 0 ∧ t.instant = (r.timestamp.getD clock).instant) ∧
      (∃ ts, run.database.tables = some ts ∧ (ts.releases.rows.map Prod.fst).Nodup) ∧
      ∀ (o : Operation) (c : Call) (f : Fault),
        o.fault? c { run.database with locked } = some f → f.isSpoilt = false := by
  obtain ⟨ts, database, faithful⟩ := run.faithful
  have found : ({ run.database with locked } : Database).tables = some ts := by rw [database]
  refine ⟨?_, ⟨ts, by rw [database], ?_⟩, ?_⟩
  · intro r id clock keeps c allowed
    obtain ⟨us, row, t, database', held, kept, instant⟩ := keeps.record
    obtain rfl : ts = us := by simpa using database.symm.trans database'
    have shown : (id, row) ∈ ts.releases.rows := ts.releases.get?_eq_some_iff.1 held
    obtain ⟨statuses, r', -, read, answers⟩ := faithful.exists_read shown
    obtain ⟨listed, got⟩ := answers _ c found allowed
    rw [kept.toRelease id statuses, Except.ok.injEq] at read
    obtain ⟨naive, t', own, clock'⟩ := kept.timestamp
    obtain rfl : t = t' := Option.some.inj own
    obtain ⟨utc, same⟩ := DateTime.assumeUtc_of_naive naive
    refine ⟨row.timestamp.assumeUtc, statuses, ?_, listed, utc, ?_⟩
    · rw [got, ← read, Release.asRead, kept.normalizedTitle]
      rfl
    · rw [same, clock', instant]
  · exact List.pairwise_map.2 (ts.releases.ascending.imp fun lt => Int.ne_of_lt lt)
  · intro o c f ended
    exact faithful.not_isSpoilt found ended

/-- A release is kept; another one is kept and deleted, a third is refused its id, an action on
it is logged, and a purge passes it over. -/
def passedOver : Run :=
  [{ operation := .purge 1 { indexers := ["b"] }, call := .inMay },
    { operation := .storeStatus { releaseId := 1 }, call := .inMay },
    { operation := .deleteRelease 2, call := .inMay },
    { operation := .store { torrentName := "b", id := 1 }, call := .inMay },
    { operation := .store { torrentName := "b" }, call := .inMay },
    { operation := .store { torrentName := "a", title := "A PROPER" }, call := .inMay }]

theorem read_of_keeps_passedOver :
    Keeps { torrentName := "a", title := "A PROPER" } 1 Call.inMay.clock passedOver ∧
      ∃ t statuses, (passedOver.database.getRelease .inMay 1).1 = .ok
        { torrentName := "a", title := "A PROPER", normalizedTitle := "a", timestamp := some t,
          actionStatus := statuses, id := 1 } := by
  have keeps : Keeps { torrentName := "a", title := "A PROPER" } 1 Call.inMay.clock passedOver := by
    have kept : (Database.initialised.store .inMay
        { torrentName := "a", title := "A PROPER" }).outcome = .ok 1 := by decide +kernel
    refine .spared (.spared (.spared (.spared (.spared (.stored rfl rfl (congrArg
      (fun outcome => (⟨outcome, _, _⟩ : Written Release)) kept)) ?_) ?_) ?_) ?_) ?_
    · exact id
    · exact id
    · exact fun deleted => absurd deleted.1 (by decide)
    · exact id
    · exact fun deleted => absurd deleted.2 (by decide +kernel)
  obtain ⟨t, statuses, got, -⟩ := (read_of_keeps passedOver false).1 _ _ _ keeps .inMay rfl
  have title : ({ torrentName := "a", title := "A PROPER" } : Release).projection.title = "a" := by
    decide +kernel
  rw [title] at got
  exact ⟨keeps, t, statuses, congrArg Prod.fst got⟩

end Run

end ReleaseHistory
