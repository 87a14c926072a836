/-
# ReleaseHistory.Proofs.StatusLog -- the statuses of a release are what was logged for it

`Run.loggedSince` is the log of a release as a run tells it: what was appended for it, in
order, since a release was kept under its id.  It looks at the outcomes of the operations
alone, not at the tables.

* A status goes behind all others as long as it takes the id after the greatest one
  (`Run.NumbersUp`).  A run would have to be longer than there are ids for it to take
  another (`Run.numbersUp_of_length_le`).
* So the statuses of a release that is held are its log, in order (`Run.forall₂_loggedSince`).
  Reading one, listing them and showing a page of releases all give them.
* A status for a release that is not held is refused for just that reason
  (`Database.storeStatus_of_wouldLog`).
-/
import ReleaseHistory.Proofs.Order
import ReleaseHistory.Proofs.Reading

namespace ReleaseHistory

set_option autoImplicit false

/-! ## Rows behind all others -/

namespace Table

variable {α : Type} {t : Table α}

/-- The greatest id, 0 in an empty table. -/
def greatestId (t : Table α) : Int := (t.rows.getLast?.map Prod.fst).getD 0

theorem le_greatestId : ∀ row ∈ t.rows, row.1 ≤ t.greatestId := by
  intro row held
  obtain ⟨last, ends⟩ := Option.isSome_iff_exists.1 (List.getLast?_isSome.2 (List.ne_nil_of_mem held))
  rw [greatestId, ends]
  exact le_getLast t.ascending ends row held

theorem greatestId_le {n : Int} (nonneg : 0 ≤ n) (below : ∀ row ∈ t.rows, row.1 ≤ n) :
    t.greatestId ≤ n := by
  unfold greatestId
  cases ends : t.rows.getLast? with
  | none => exact nonneg
  | some last => exact below last (List.mem_of_getLast? ends)

/-- The id of a new record is the one after the greatest, as long as that fits. -/
theorem nextId?_eq (room : t.greatestId < maxId) (draws : List DrawnId) :
    t.nextId? draws = some (t.greatestId + 1) := by
  unfold greatestId at room ⊢
  unfold nextId?
  cases ends : t.rows.getLast? with
  | none => rfl
  | some last =>
      rw [ends] at room
      exact if_pos room

theorem insertRow_of_lt {id : Int} {a : α} {rows : List (Int × α)} (above : ∀ row ∈ rows, row.1 < id) :
    insertRow id a rows = rows ++ [(id, a)] := by
  induction rows with
  | nil => rfl
  | cons row rows ih =>
      obtain ⟨k, b⟩ := row
      have first : k < id := above (k, b) (List.mem_cons_self ..)
      rw [insertRow, if_neg (by omega), if_neg (by omega), List.cons_append]
      congr 1
      exact ih fun row held => above row (List.mem_cons_of_mem _ held)

theorem greatestId_insert {id : Int} (a : α) (above : ∀ row ∈ t.rows, row.1 < id) :
    (t.insert id a).greatestId = id := by
  have rows : (t.insert id a).rows = t.rows ++ [(id, a)] := insertRow_of_lt above
  rw [greatestId, rows, List.getLast?_concat]
  rfl

end Table

/-! ## Runs that number statuses upwards -/

/-- The id of a status that an operation appends is the next one. -/
theorem Operation.id_of_logged {o : Operation} {c : Call} {db : Database} {ts : Tables}
    {s : ActionStatus} (found : db.tables = some ts) (logged : o.logged? c db = some s) :
    ts.statuses.nextId? c.draws = some s.id := by
  cases o with
  | storeStatus s' =>
      rw [logged?] at logged
      cases ran : db.storeStatus c s' with
      | mk outcome written after =>
          rw [ran] at logged
          cases outcome with
          | error f => cases logged
          | ok k =>
              obtain rfl := Option.some.inj logged
              obtain ⟨t, row, us, -, rfl, -, -, -, found', -, -, chosen, -⟩ :=
                Database.storeStatus_ok_iff.1 ran
              obtain rfl := Option.some.inj (found.symm.trans found')
              exact chosen
  | _ => cases logged

namespace Run

/-- Every status that the run appended took the id after the greatest one. -/
def NumbersUp : Run → Prop
  | [] => True
  | s :: run =>
      NumbersUp run ∧ ∀ logged ts,
        s.operation.logged? s.call (s.before (Run.database run)) = some logged →
          (Run.database run).tables = some ts → logged.id = ts.statuses.greatestId + 1

/-- The statuses that the run appended for the release under the id since it was kept, in
their order. -/
def loggedSince (id : Int) : Run → List ActionStatus
  | [] => []
  | s :: run =>
      let db := s.before (Run.database run)
      if (s.operation.kept? s.call db).any (·.id == id) then []
      else loggedSince id run ++ ((s.operation.logged? s.call db).filter (·.releaseId == id)).toList

/-- One step appends a status under an id that is one above all others at most. -/
theorem status_ids_le {ts ts' : Tables} {kept : Option Release} {logged : Option ActionStatus} {n : Int}
    (below : ∀ row ∈ ts.statuses.rows, row.1 ≤ n) (effect : Effect ts kept logged ts')
    (next : ∀ s, logged = some s → s.id ≤ n + 1) : ∀ row ∈ ts'.statuses.rows, row.1 ≤ n + 1 := by
  intro row held
  cases effect with
  | keeps _ _ _ =>
      have := below row held
      omega
  | logs _ _ _ =>
      rcases Table.eq_or_mem_of_mem_insertRow held with rfl | held
      · exact next _ rfl
      · have := below row held
        omega
  | drops ids =>
      have := below row (Tables.mem_statuses_dropReleases.1 held).1
      omega
  | profiles _ =>
      have := below row held
      omega

/-- A run that is no longer than there are ids numbers its statuses upwards. -/
theorem numbersUp_of_length_le {run : Run} (short : (run.length : Int) ≤ Table.maxId) :
    NumbersUp run ∧ ∀ ts, Run.database run = { tables := some ts } →
      ∀ row ∈ ts.statuses.rows, row.1 ≤ run.length := by
  -- the bound on the ids goes along: it leaves room for the next one
  induction run with
  | nil =>
      refine ⟨trivial, ?_⟩
      intro ts database row held
      obtain rfl : ({} : Tables) = ts := by simpa [Run.database, Database.initialised] using database
      cases held
  | cons s run ih =>
      rw [List.length_cons] at short ⊢
      obtain ⟨up, below⟩ := ih (by omega)
      obtain ⟨ts, database, -⟩ := Run.faithful run
      have found := s.tables_before database
      have greatest : ts.statuses.greatestId ≤ run.length :=
        Table.greatestId_le (by omega) (below ts database)
      have next {logged : ActionStatus}
          (appended : s.operation.logged? s.call (s.before (Run.database run)) = some logged) :
          logged.id = ts.statuses.greatestId + 1 := by
        have chosen := Operation.id_of_logged found appended
        rw [Table.nextId?_eq (by omega)] at chosen
        exact (Option.some.inj chosen).symm
      refine ⟨⟨up, ?_⟩, ?_⟩
      · intro logged us appended found'
        rw [database] at found'
        obtain rfl := Option.some.inj found'
        exact next appended
      · intro ts' database'
        obtain ⟨us, after, effect⟩ := Run.exists_effect s database
        obtain rfl : us = ts' := by simpa using after.symm.trans database'
        have bound : ∀ row ∈ us.statuses.rows, row.1 ≤ (run.length : Int) + 1 := by
          apply status_ids_le (below ts database) effect
          intro logged appended
          rw [next appended]
          omega
        intro row held
        have := bound row held
        omega

/-! ## The log in the tables -/

/-- A status that goes behind all others goes behind those of its release. -/
theorem statusesOf_insert {ts : Tables} {k : Int} (row : StoredStatus)
    (next : k = ts.statuses.greatestId + 1) (id : Int) :
    ({ ts with statuses := ts.statuses.insert k row } : Tables).statusesOf [id] =
      ts.statusesOf [id] ++ if row.releaseId = id then [(k, row)] else [] := by
  have above : ∀ old ∈ ts.statuses.rows, old.1 < k := by
    intro old held
    have := Table.le_greatestId old held
    omega
  have rows : (ts.statuses.insert k row).rows = ts.statuses.rows ++ [(k, row)] :=
    Table.insertRow_of_lt above
  unfold Tables.statusesOf
  rw [rows, List.filter_append]
  congr 1
  by_cases own : row.releaseId = id
  · simp [own]
  · simp [own]

/-- One step of the log of each release that is held. -/
theorem forall₂_logged_step {ts ts' : Tables} {kept : Option Release} {logged : Option ActionStatus}
    {log : Int → List ActionStatus} (effect : Effect ts kept logged ts')
    (owned : ∀ row ∈ ts.statuses.rows, ts.releases.contains row.2.releaseId = true)
    (up : ∀ s, logged = some s → s.id = ts.statuses.greatestId + 1)
    (before : ∀ id, ts.releases.contains id = true →
      List.Forall₂ Ledger.Logged (log id) (ts.statusesOf [id]))
    (id : Int) (held : ts'.releases.contains id = true) :
    List.Forall₂ Ledger.Logged
      (if kept.any (·.id == id) then []
        else log id ++ (logged.filter (·.releaseId == id)).toList) (ts'.statusesOf [id]) := by
  cases effect with
  | @keeps r row written free _ =>
      by_cases own : r.id = id
      · -- the id was free, and no status is without its release: nothing is left of an earlier one
        have none : ts.statusesOf [id] = [] := Tables.statusesOf_eq_nil owned (own ▸ free)
        rw [if_pos (by simpa using own)]
        show List.Forall₂ Ledger.Logged [] (ts.statusesOf [id])
        rw [none]
        exact .nil
      · have old : ts.releases.contains id = true := by
          rw [Table.contains, Table.get?_insert, if_neg (Ne.symm own)] at held
          exact held
        rw [if_neg (by simpa using own)]
        show List.Forall₂ Ledger.Logged (log id ++ []) (ts.statusesOf [id])
        rw [List.append_nil]
        exact before id old
  | @logs s row written _ _ =>
      have owner : row.releaseId = s.releaseId := congrArg Attempt.releaseId written.attempt
      rw [statusesOf_insert row (up s rfl), owner]
      show List.Forall₂ Ledger.Logged (log id ++ _) _
      apply List.rel_append (before id held)
      by_cases own : s.releaseId = id
      · rw [if_pos own, Option.filter_some, if_pos (by simpa using own)]
        exact .cons ⟨written, rfl⟩ .nil
      · rw [if_neg own, Option.filter_some, if_neg (by simpa using own)]
        exact .nil
  | drops ids =>
      have kept := Tables.contains_dropReleases.1 held
      rw [Tables.statusesOf_dropReleases, if_neg kept.1]
      show List.Forall₂ Ledger.Logged (log id ++ []) (ts.statusesOf [id])
      rw [List.append_nil]
      exact before id kept.2
  | profiles _ =>
      show List.Forall₂ Ledger.Logged (log id ++ []) (ts.statusesOf [id])
      rw [List.append_nil]
      exact before id held

/-- The statuses of a release that is held are those that were appended for it since it was
kept, in their order. -/
theorem forall₂_loggedSince {run : Run} (up : NumbersUp run) {ts : Tables}
    (database : Run.database run = { tables := some ts }) {id : Int}
    (held : ts.releases.contains id = true) :
    List.Forall₂ Ledger.Logged (loggedSince id run) (ts.statusesOf [id]) := by
  induction run generalizing ts id with
  | nil =>
      obtain rfl : ({} : Tables) = ts := by simpa [Run.database, Database.initialised] using database
      cases held
  | cons s run ih =>
      obtain ⟨us, database', faithful⟩ := Run.faithful run
      obtain ⟨us', after, effect⟩ := Run.exists_effect s database'
      obtain rfl : us' = ts := by simpa using after.symm.trans database
      apply forall₂_logged_step effect faithful.owned ?_ ?_ id held
      · intro logged appended
        exact up.2 logged us appended (by rw [database'])
      · intro k old
        exact ih up.1 database' old

end Run

/-! ## Reading the log -/

/-- The status is read as the other one: the same, with its time in UTC. -/
def ActionStatus.ReadAs (s read : ActionStatus) : Prop :=
  ∃ t u, s.timestamp = some t ∧ read = { s with timestamp := some u } ∧ u.offset = some 0 ∧
    u.instant = t.instant

theorem Ledger.Logged.readAs {s read : ActionStatus} {row : Int × StoredStatus} (logged : Logged s row)
    (shown : row.2.toStatus row.1 = .ok read) : s.ReadAs read := by
  obtain ⟨written, same⟩ := logged
  obtain ⟨naive, t, given, clock⟩ := written.timestamp
  obtain ⟨utc, instant⟩ := DateTime.assumeUtc_of_naive naive
  rw [written.toStatus, Except.ok.injEq, ← same] at shown
  exact ⟨t, _, given, shown.symm, utc, instant.trans clock⟩

/-- Statuses that are read one after another are the log. -/
theorem forall₂_readAs {log : List ActionStatus} {rows : List (Int × StoredStatus)}
    {statuses : List ActionStatus} (logged : List.Forall₂ Ledger.Logged log rows)
    (read : (rows.mapM fun s => s.2.toStatus s.1) = .ok statuses) :
    List.Forall₂ ActionStatus.ReadAs log statuses := by
  rw [mapM_eq_ok_iff] at read
  induction logged generalizing statuses with
  | nil =>
      cases read
      exact .nil
  | cons first _ ih =>
      cases read with
      | cons shown rest => exact .cons (first.readAs shown) (ih rest)

namespace Database

variable {db : Database} {ts : Tables} {l : Ledger} {c : Call}

/-- Every release on a page is that of a record, with the statuses of its log. -/
theorem shows_of_find (faithful : l.Faithful ts) (found : db.tables = some ts) {s : PageSettings}
    {q : Query} {page : Page} (answer : (db.find s c q).1 = .ok page) :
    ∀ r ∈ page.releases, ∃ row ∈ ts.releases.rows, ts.Shows row r := by
  unfold find at answer
  split at answer
  · cases answer
  · cases answer
  · rename_i limit offset clauses _ _
    obtain ⟨-, after, yields⟩ := fst_run_ok_iff.1 answer
    simp only [Work.yields_bind, Work.yields_compose, Work.yields_tables, Work.yields_resolve,
      Work.throw_bind, Work.yields_unless, Work.yields_carry, Work.yields_ofExcept,
      Work.yields_pure] at yields
    obtain ⟨_, _, ⟨-, rfl⟩, us, _, ⟨found', rfl⟩, _, _, ⟨-, rfl⟩, -, _, _, ⟨-, rfl⟩, _, _, ⟨-, rfl⟩,
      statuses, _, ran, releases, _, ⟨made, rfl⟩, rfl, -⟩ := yields
    obtain rfl := Option.some.inj (found.symm.trans found')
    have held : ∀ row ∈ takeRows limit ((SortOrder.sort clauses (q.matching ts)).drop offset.toNat),
        row ∈ ts.releases.rows := by
      intro row shown
      have sorted := List.mem_of_mem_drop (mem_of_mem_takeRows shown)
      exact (List.mem_filter.1 ((SortOrder.sort_perm _ _).mem_iff.1 sorted)).1
    -- all that can be read is what was read
    obtain ⟨statuses', releases', read, made', shows⟩ := faithful.exists_readReleases held
    obtain rfl := Work.of_yields_readStatuses found read ran
    obtain rfl := Except.ok.inj (made'.symm.trans made)
    intro r listed
    obtain ⟨row, shown, same⟩ := Ledger.Faithful.exists_related shows.flip listed
    exact ⟨row, held row shown, same⟩

/-- The status could be appended if its release were held. -/
def WouldLog (db : Database) (c : Call) (s : ActionStatus) : Prop :=
  ∃ ts row id, db.tables = some ts ∧
    (Database.storeStatus
      { db with tables := some { ts with releases := ts.releases.insert s.releaseId row } } c s).outcome =
        .ok id

/-- A status that could be appended if its release were held is refused for want of it. -/
theorem storeStatus_of_wouldLog {s : ActionStatus} (absent : db.holds s.releaseId = false)
    (would : db.WouldLog c s) :
    (db.storeStatus c s).outcome = .error (.conflict .statusOwner) ∧
      (db.storeStatus c s).database = db := by
  obtain ⟨ts, row, id, found, kept⟩ := would
  cases ran : Database.storeStatus
      { db with tables := some { ts with releases := ts.releases.insert s.releaseId row } } c s with
  | mk outcome logged after =>
      rw [ran] at kept
      obtain rfl : outcome = .ok id := kept
      obtain ⟨t, record, us, stamped, rfl, written, first, -, found', fit, free, chosen, -⟩ :=
        storeStatus_ok_iff.1 ran
      obtain rfl := Option.some.inj found'
      have owner : record.releaseId = s.releaseId := by
        obtain ⟨u, -, rfl⟩ := StoredStatus.ofStatus_eq_ok_iff.1 written
        rfl
      have missing : ts.releases.contains record.releaseId = false := by
        rw [owner, ← absent, Database.holds, found]
        rfl
      have recorded : StoredStatus.ofStatus { s with timestamp := some t } t = .ok record := written
      have refused : (Work.insertStatus c.draws record).Fails db (.conflict .statusOwner) := by
        unfold Work.insertStatus
        simp only [Work.fails_bind, Work.throw_bind, Work.fails_unless]
        refine .inr ⟨ts, db, Work.yields_tables.2 ⟨found, rfl⟩, .inr ⟨(), db,
          Work.yields_carry.2 ⟨fit, rfl⟩, .inr ⟨(), db, Work.yields_acquireLock.2 ⟨free, rfl⟩,
          .inr ⟨id, db, Work.yields_takeId.2 ⟨chosen, rfl⟩, .inl ⟨?_, trivial⟩⟩⟩⟩⟩
        rw [missing]
        rfl
      have ended : db.run c 1 (Work.insertStatus c.draws record >>= fun id =>
          Work.check c 2 >>= fun _ => pure id) = (.error (.conflict .statusOwner), db) :=
        run_eq_error_iff.2 ⟨rfl, .inr ⟨first, Work.fails_bind.2 (.inl refused)⟩⟩
      unfold Database.storeStatus
      simp only [stamped, recorded]
      rw [ended]
      exact ⟨rfl, rfl⟩

end Database

namespace Run

/-- A release that was just kept has no statuses, whatever had its id before. -/
theorem statusesOf_of_stored {run : Run} {s : Step} {r kept : Release} {id : Int} {db : Database}
    {ts : Tables} (operation : s.operation = .store r)
    (done : (s.before (Run.database run)).store s.call r = ⟨.ok id, kept, db⟩)
    (database : Run.database (s :: run) = { tables := some ts }) :
    ts.releases.contains id = true ∧ ts.statusesOf [id] = [] := by
  obtain ⟨us, database', faithful⟩ := Run.faithful run
  have found := s.tables_before database'
  rw [Run.database, Step.after, operation, Operation.perform, done] at database
  obtain ⟨f, failed, -⟩ | ⟨kept', row, ran, -, -, free, -⟩ := Database.store_cases found s.call r
  · rw [done] at failed
    cases failed
  · rw [done] at ran
    simp only [Written.mk.injEq, Except.ok.injEq] at ran
    obtain ⟨rfl, rfl, rfl⟩ := ran
    obtain rfl := Option.some.inj (congrArg Database.tables database)
    refine ⟨?_, Tables.statusesOf_eq_nil faithful.owned free⟩
    rw [Table.contains, Table.get?_insert, if_pos rfl]
    rfl

/-- After every run each status belongs to a release that is held, and the statuses of a release
that is held are those that were appended for it since it was kept, in their order and with their
times in UTC.  That takes that each status got the id after the greatest one, which is so in every
run that is no longer than there are ids.  The statuses are listed for the release, read with it
and shown with it on every page.  A release that was just kept has none, and a status that could
be appended if its release were held is refused as breaking a constraint. -/
theorem log_of_held (run : Run) (locked : Bool) :
    ((run.length : Int) ≤ Table.maxId → run.NumbersUp) ∧
    ∃ ts, run.database = { tables := some ts } ∧
      (∀ row ∈ ts.statuses.rows, ts.releases.contains row.2.releaseId = true) ∧
      (∀ id, ts.releases.contains id = true → ∃ statuses,
        (run.NumbersUp → List.Forall₂ ActionStatus.ReadAs (run.loggedSince id) statuses) ∧
        (∀ c : Call, c.check 1 = .ok () →
          (Database.listStatuses { tables := some ts, locked } c id).1 = .ok statuses ∧
          ∃ r, (Database.getRelease { tables := some ts, locked } c id).1 = .ok r ∧
            r.actionStatus = statuses) ∧
        ∀ (s : PageSettings) (c : Call) (q : Query) (page : Page),
          (Database.find { tables := some ts, locked } s c q).1 = .ok page →
            ∀ r ∈ page.releases, r.id = id → r.actionStatus = statuses) ∧
      (∀ (s : Step) (earlier : Run) (r kept : Release) (id : Int) (db : Database),
        run = s :: earlier → s.operation = .store r →
          (s.before earlier.database).store s.call r = ⟨.ok id, kept, db⟩ →
            ∀ c : Call, c.check 1 = .ok () →
              (Database.listStatuses { tables := some ts, locked } c id).1 = .ok []) ∧
      ∀ (s : ActionStatus) (c : Call), ts.releases.contains s.releaseId = false →
        Database.WouldLog { tables := some ts, locked } c s →
          (Database.storeStatus { tables := some ts, locked } c s).outcome =
              .error (.conflict .statusOwner) ∧
            (Database.storeStatus { tables := some ts, locked } c s).database =
              { tables := some ts, locked } := by
  obtain ⟨ts, database, faithful⟩ := run.faithful
  have found : ({ tables := some ts, locked } : Database).tables = some ts := rfl
  refine ⟨fun short => (numbersUp_of_length_le short).1, ts, database, faithful.owned, ?_, ?_, ?_⟩
  · intro id held
    obtain ⟨row, present⟩ := Table.contains_iff.1 held
    have shown : (id, row) ∈ ts.releases.rows := ts.releases.get?_eq_some_iff.1 present
    obtain ⟨statuses, r, read, made, answers⟩ := faithful.exists_read shown
    refine ⟨statuses, ?_, ?_, ?_⟩
    · intro up
      exact forall₂_readAs (forall₂_loggedSince up database held) read
    · intro c allowed
      obtain ⟨listed, got⟩ := answers _ c found allowed
      have attached := (faithful.of_shows shown ⟨statuses, read, made⟩).2
      exact ⟨congrArg Prod.fst listed, r, congrArg Prod.fst got, Except.ok.inj (attached.symm.trans read)⟩
    · intro s c q page answer r' listed same
      obtain ⟨row', held', shows⟩ := Database.shows_of_find faithful found answer r' listed
      obtain ⟨own, attached⟩ := faithful.of_shows held' shows
      rw [← own, same] at attached
      exact Except.ok.inj (attached.symm.trans read)
  · rintro s earlier r kept id db rfl operation done c allowed
    obtain ⟨held, none⟩ := statusesOf_of_stored operation done database
    obtain ⟨row, present⟩ := Table.contains_iff.1 held
    obtain ⟨statuses, r', read, -, answers⟩ :=
      faithful.exists_read (ts.releases.get?_eq_some_iff.1 present)
    rw [none] at read
    obtain rfl := Except.ok.inj read
    exact congrArg Prod.fst (answers _ c found allowed).1
  · intro s c absent would
    exact Database.storeStatus_of_wouldLog absent would

/-- A release is delivered and deleted, another one is kept under its id, and two actions on that
one are logged. -/
def reused : Run :=
  [{ operation := .storeStatus { releaseId := 1, status := .error }, call := .inMay },
    { operation := .storeStatus { releaseId := 1 }, call := .inMay },
    { operation := .store { torrentName := "b" }, call := .inMay },
    { operation := .deleteRelease 1, call := .inMay }] ++ delivery

/-- The record of a release without fields. -/
def spare : StoredRelease :=
  { codecText := "[]", hdrText := "[]", audioText := "[]", tagsText := "[]", rejectionsText := "[]",
    protocolName := "torrent", implementationName := "irc", filterStatusName := "pending",
    normalizedTitle := "", timestamp := Call.inMay.clock }

theorem log_of_held_reused :
    reused.NumbersUp ∧ (reused.loggedSince 1).map (·.status) = [.approved, .error] ∧
      (∃ ts statuses, reused.database = { tables := some ts } ∧
        (Database.listStatuses { tables := some ts } .inMay 1).1 = .ok statuses ∧
        List.Forall₂ ActionStatus.ReadAs (reused.loggedSince 1) statuses) ∧
      (reused.database.storeStatus .inMay { releaseId := 2 }).outcome =
        .error (.conflict .statusOwner) := by
  obtain ⟨numbered, ts, database, -, logs, -, refused⟩ := log_of_held reused false
  have up : reused.NumbersUp := numbered (by decide)
  have held : reused.database.tables.map
      (fun ts => (ts.releases.contains 1, ts.releases.contains 2)) = some (true, false) := by
    decide +kernel
  have would : reused.database.tables.map (fun ts => (Database.storeStatus
      { tables := some { ts with releases := ts.releases.insert 2 spare } } .inMay
        { releaseId := 2 }).outcome) = some (.ok 3) := by
    decide +kernel
  rw [database] at held would ⊢
  obtain ⟨present, absent⟩ := Prod.mk.inj (Option.some.inj held)
  obtain ⟨statuses, logged, answers, -⟩ := logs 1 present
  refine ⟨up, by decide +kernel, ⟨ts, statuses, rfl, (answers .inMay rfl).1, logged up⟩, ?_⟩
  exact (refused { releaseId := 2 } .inMay absent ⟨ts, spare, 3, rfl, Option.some.inj would⟩).1

end Run

end ReleaseHistory
