/-
# ReleaseHistory.Proofs.Legibility -- no operation comes upon a spoilt column

Reading a record fails where a column holds no label, or no list of texts.  Such columns are
not found in a reachable history, so no operation on one ends in a fault of that kind
(`Ledger.Faithful.not_isSpoilt`), whatever its arguments, the limits of its call and the lock.

`Work.Legible w db` says this of the work `w` on the database `db`.  It is composed along the
statements of a transaction: only those that read records need a reachable history.
-/
import ReleaseHistory.Proofs.Duplicates
import ReleaseHistory.Proofs.Order
import ReleaseHistory.Proofs.Reading

namespace ReleaseHistory

set_option autoImplicit false

/-- The fault comes from a column that holds no label, or no list of texts. -/
def Fault.isSpoilt : Fault → Bool
  | .invalidValue _ => true
  | .malformedJson .. => true
  | .nestedTooDeep => true
  | _ => false

/-! ## Work that never comes upon a spoilt column -/

namespace Work

variable {α β : Type} {db : Database} {ts : Tables} {l : Ledger}

/-- The work does not fail on the database because of a spoilt column. -/
def Legible (w : Work α) (db : Database) : Prop := ∀ f, w.Fails db f → f.isSpoilt = false

namespace Legible

theorem bind {w : Work α} {g : α → Work β} (first : w.Legible db)
    (rest : ∀ a mid, w.Yields db a mid → (g a).Legible mid) : (w >>= g).Legible db := by
  intro f failed
  rcases fails_bind.1 failed with failed | ⟨a, mid, yields, failed⟩
  · exact first f failed
  · exact rest a mid yields f failed

theorem pure (a : α) : (Pure.pure a : Work α).Legible db :=
  fun _ failed => (not_fails_pure failed).elim

theorem throw {f : Fault} (sound : f.isSpoilt = false) :
    (MonadExcept.throw f : Work α).Legible db := by
  intro g failed
  rw [← fails_throw.1 failed]
  exact sound

theorem guarded {p : Prop} [Decidable p] {f : Fault} {w : Work α} (sound : f.isSpoilt = false)
    (other : w.Legible db) : (if p then MonadExcept.throw f else w).Legible db := by
  intro g failed
  rcases fails_unless.1 failed with ⟨-, rfl⟩ | ⟨-, failed⟩
  · exact sound
  · exact other g failed

theorem tables (k : RecordKind) : (Work.tables k).Legible db := by
  intro f failed
  rw [← (fails_tables.1 failed).2]
  rfl

theorem carry (ns : List Int) : (Work.carry ns).Legible db := by
  intro f failed
  rw [← (fails_carry.1 failed).2]
  rfl

theorem acquireLock : Work.acquireLock.Legible db := by
  intro f failed
  rw [← (fails_acquireLock.1 failed).2]
  rfl

theorem takeId (chosen : Option Int) : (Work.takeId chosen).Legible db := by
  intro f failed
  rw [← (fails_takeId.1 failed).2]
  rfl

theorem setTables (ts : Tables) : (Work.setTables ts).Legible db :=
  fun _ failed => (not_fails_setTables failed).elim

theorem ofExcept {e : Except Fault α} {a : α} (read : e = .ok a) : (Work.ofExcept e).Legible db := by
  intro f failed
  rw [read] at failed
  cases fails_ofExcept.1 failed

theorem check (c : Call) (n : Nat) : (Work.check c n).Legible db := by
  intro f failed
  rcases Call.of_check_eq_error (fails_check.1 failed) with rfl | rfl | rfl | ⟨_, rfl⟩
  all_goals rfl

theorem compose (conditions : List Nat) (behind : Nat) :
    (Work.compose conditions behind).Legible db := by
  intro f failed
  obtain ⟨o, -, rfl⟩ := fails_compose.1 failed
  rfl

theorem resolve (lookup : Bool) (conditions : List Nat) :
    (Work.resolve lookup conditions).Legible db := by
  intro f failed
  rw [← (fails_resolve.1 failed).2]
  rfl

/-- All statuses of a reachable history can be read. -/
theorem readStatuses (faithful : l.Faithful ts) (found : db.tables = some ts) (ids : List Int) :
    (Work.readStatuses ids).Legible db := by
  intro f failed
  rcases fails_readStatuses found failed with ⟨o, -, rfl⟩ | ⟨-, rfl⟩ | unread
  · rfl
  · rfl
  · obtain ⟨statuses, read⟩ : ∃ statuses,
        ((ts.statusesOf ids).mapM fun s => s.2.toStatus s.1) = .ok statuses := by
      apply exists_mapM_eq_ok
      intro s listed
      obtain ⟨status, read, -⟩ := faithful.exists_toStatus (List.mem_filter.1 listed).1
      exact ⟨status, read⟩
    rw [read] at unread
    cases unread

/-! ## Writing -/

theorem insertRelease (draws : List DrawnId) (id : Int) (r : StoredRelease) :
    (Work.insertRelease draws id r).Legible db := by
  unfold Work.insertRelease
  refine bind (tables _) fun ts mid _ => bind (carry _) fun _ _ _ => bind acquireLock fun _ _ _ => ?_
  simp only [throw_bind]
  exact guarded rfl (bind (takeId _) fun _ _ _ => bind (setTables _) fun _ _ _ => pure _)

theorem insertStatus (draws : List DrawnId) (s : StoredStatus) :
    (Work.insertStatus draws s).Legible db := by
  unfold Work.insertStatus
  refine bind (tables _) fun ts mid _ => bind (carry _) fun _ _ _ => bind acquireLock fun _ _ _ => ?_
  refine bind (takeId _) fun _ _ _ => ?_
  simp only [throw_bind]
  exact guarded rfl (bind (setTables _) fun _ _ _ => pure _)

theorem deleteReleases (ids : List Int) : (Work.deleteReleases ids).Legible db := by
  unfold Work.deleteReleases
  refine bind (compose _ _) fun _ _ _ => bind (tables _) fun _ _ _ => ?_
  exact bind acquireLock fun _ _ _ => setTables _

theorem addProfile (draws : List DrawnId) (p : NamedSwitches) :
    (Work.addProfile draws p).Legible db := by
  unfold Work.addProfile
  refine bind (tables _) fun _ _ _ => bind acquireLock fun _ _ _ => bind (takeId _) fun _ _ _ => ?_
  simp only [throw_bind]
  exact guarded rfl (bind (setTables _) fun _ _ _ => pure _)

theorem replaceProfile (id : Int) (p : NamedSwitches) : (Work.replaceProfile id p).Legible db := by
  unfold Work.replaceProfile
  refine bind (tables _) fun ts _ _ => bind (carry _) fun _ _ _ => ?_
  split
  · exact throw rfl
  · simp only [throw_bind]
    split
    · refine bind acquireLock fun _ _ _ => guarded rfl ?_
      exact bind (setTables _) fun _ _ _ => pure _
    · exact pure _

theorem batch (p : Purge) (cutoff : Option DateTime) (size : Int) (c : Call) (k : Nat) :
    (p.batch cutoff size c k).Legible db := by
  unfold Purge.batch
  refine bind (compose _ _) fun _ _ _ => bind (tables _) fun _ _ _ => bind (carry _) fun _ _ _ => ?_
  dsimp only
  split
  · exact pure _
  · exact bind (deleteReleases _) fun _ _ _ => bind (check _ _) fun _ _ _ => pure _

end Legible

end Work

/-! ## Operations -/

/-- The fault of an outcome. -/
def faultOf? {α : Type} : Except Fault α → Option Fault
  | .error f => some f
  | .ok _ => none

theorem faultOf?_eq_some_iff {α : Type} {e : Except Fault α} {f : Fault} :
    faultOf? e = some f ↔ e = .error f := by
  cases e <;> simp [faultOf?]

/-- The fault in which an operation ends. -/
def Operation.fault? (o : Operation) (c : Call) (db : Database) : Option Fault :=
  match o with
  | .initialise => faultOf? db.initialise.1
  | .store r => faultOf? (db.store c r).outcome
  | .getRelease id => faultOf? (db.getRelease c id).1
  | .deleteRelease id => faultOf? (db.deleteRelease c id).1
  | .storeStatus s => faultOf? (db.storeStatus c s).outcome
  | .getStatus id => faultOf? (db.getStatus c id).1
  | .listStatuses releaseId => faultOf? (db.listStatuses c releaseId).1
  | .storeProfile p => faultOf? (db.storeProfile c p).outcome
  | .getProfile id => faultOf? (db.getProfile c id).1
  | .listProfiles => faultOf? (db.listProfiles c).1
  | .deleteProfile id => faultOf? (db.deleteProfile c id).1
  | .isDuplicate p r => faultOf? (db.isDuplicate c p r).1
  | .mayDownload a again => faultOf? (db.mayDownload c a again).1
  | .find s q => faultOf? (db.find s c q).1
  | .stats => faultOf? (db.stats c).1
  | .indexers => faultOf? (db.indexers c).1
  | .purge size p => faultOf? (db.purge size c p).1

namespace Database

variable {db : Database} {c : Call} {ts : Tables} {l : Ledger} {f : Fault}

theorem not_isSpoilt_of_stamp {timestamp : Option DateTime} (failed : c.stamp timestamp = .error f) :
    f.isSpoilt = false := by
  cases timestamp with
  | some t => cases failed
  | none =>
      have untold : readClock c.clock = .error f := failed
      unfold readClock at untold
      split at untold
      · rw [← Except.error.inj untold]
        rfl
      · cases untold

/-- A transaction of legible work ends in no fault of a spoilt column. -/
theorem not_isSpoilt_of_run {α : Type} {n : Nat} {w : Work α} (legible : w.Legible db)
    (failed : (db.run c n w).1 = .error f) : f.isSpoilt = false := by
  rcases run_error_iff.1 failed with refused | ⟨-, fails⟩
  · have legible : (Work.check c n).Legible db := .check c n
    exact legible f (Work.fails_check.2 refused)
  · exact legible f fails

theorem not_isSpoilt_of_written {α : Type} {w : Work Int} {given : α} {done : Int → α}
    (legible : w.Legible db)
    (failed : (match db.run c 1 w with
      | (.error f, db) => (⟨.error f, given, db⟩ : Written α)
      | (.ok id, db) => ⟨.ok id, done id, db⟩).outcome = .error f) : f.isSpoilt = false := by
  obtain ⟨g, ran⟩ | ⟨id, after, ran⟩ := db.run_cases c 1 w
  · rw [ran] at failed
    obtain rfl := Except.error.inj failed
    exact not_isSpoilt_of_run legible (congrArg Prod.fst ran)
  · rw [ran] at failed
    cases failed

theorem not_isSpoilt_store {r : Release} (failed : (db.store c r).outcome = .error f) :
    f.isSpoilt = false := by
  unfold Database.store at failed
  cases stamped : c.stamp r.timestamp with
  | error g =>
      rw [stamped] at failed
      obtain rfl := Except.error.inj failed
      exact not_isSpoilt_of_stamp stamped
  | ok t =>
      simp only [stamped] at failed
      split at failed
      · rename_i g unwritten
        obtain rfl := Except.error.inj failed
        unfold StoredRelease.ofRelease at unwritten
        split at unwritten
        · rw [← Except.error.inj unwritten]
          rfl
        · cases unwritten
      · refine not_isSpoilt_of_written ?_ failed
        exact .bind (.insertRelease _ _ _) fun _ _ _ => .bind (.check _ _) fun _ _ _ => .pure _

theorem not_isSpoilt_storeStatus {s : ActionStatus} (failed : (db.storeStatus c s).outcome = .error f) :
    f.isSpoilt = false := by
  unfold Database.storeStatus at failed
  cases stamped : c.stamp s.timestamp with
  | error g =>
      rw [stamped] at failed
      obtain rfl := Except.error.inj failed
      exact not_isSpoilt_of_stamp stamped
  | ok t =>
      simp only [stamped] at failed
      split at failed
      · rename_i g unwritten
        obtain rfl := Except.error.inj failed
        unfold StoredStatus.ofStatus at unwritten
        split at unwritten
        · rw [← Except.error.inj unwritten]
          rfl
        · cases unwritten
      · refine not_isSpoilt_of_written ?_ failed
        exact .bind (.insertStatus _ _) fun _ _ _ => .bind (.check _ _) fun _ _ _ => .pure _

theorem not_isSpoilt_storeProfile {p : Profile} (failed : (db.storeProfile c p).outcome = .error f) :
    f.isSpoilt = false := by
  refine not_isSpoilt_of_written ?_ failed
  dsimp only
  split
  · exact .bind (.addProfile _ _) fun _ _ _ => .bind (.check _ _) fun _ _ _ => .pure _
  · exact .bind (.replaceProfile _ _) fun _ _ _ => .bind (.check _ _) fun _ _ _ => .pure _

theorem not_isSpoilt_batchesFrom {p : Purge} {cutoff : Option DateTime} {size : Int} {fuel k : Nat}
    (failed : (p.batchesFrom cutoff size c fuel k db).1 = .error f) : f.isSpoilt = false := by
  induction fuel generalizing k db with
  | zero => cases failed
  | succ fuel ih =>
      rw [Purge.batchesFrom] at failed
      split at failed
      · rename_i g after ran
        obtain rfl := Except.error.inj failed
        exact not_isSpoilt_of_run (Work.Legible.batch p cutoff size c k) (congrArg Prod.fst ran)
      · cases failed
      · split at failed
        · rename_i g after later
          obtain rfl := Except.error.inj failed
          exact ih (congrArg Prod.fst later)
        · cases failed

theorem not_isSpoilt_cutoff? {p : Purge} (failed : p.cutoff? c = .error f) : f.isSpoilt = false := by
  unfold Purge.cutoff? at failed
  split at failed
  · cases failed
  · cases told : c.time with
    | error g =>
        rw [told] at failed
        obtain rfl := Except.error.inj failed
        exact not_isSpoilt_of_stamp (show c.stamp none = .error g from told)
    | ok now =>
        simp only [told, bind, Except.bind] at failed
        split at failed
        · rw [← Except.error.inj failed]
          rfl
        · cases failed

theorem not_isSpoilt_purge {size : Int} {p : Purge} (failed : (db.purge size c p).1 = .error f) :
    f.isSpoilt = false := by
  unfold Database.purge at failed
  split at failed
  · rw [← Except.error.inj failed]
    rfl
  · split at failed
    · rename_i g uncut
      obtain rfl := Except.error.inj failed
      exact not_isSpoilt_cutoff? uncut
    · exact not_isSpoilt_batchesFrom failed

/-! ## Operations that read -/

theorem not_isSpoilt_getRelease (faithful : l.Faithful ts) (found : db.tables = some ts) {id : Int}
    (failed : (db.getRelease c id).1 = .error f) : f.isSpoilt = false := by
  refine not_isSpoilt_of_run ?_ failed
  refine .bind (.tables _) fun us mid ran => .bind (.carry _) fun _ last carried => ?_
  obtain ⟨found', rfl⟩ := Work.yields_tables.1 ran
  obtain ⟨-, rfl⟩ := Work.yields_carry.1 carried
  obtain rfl := Option.some.inj (found.symm.trans found')
  split
  · exact .throw rfl
  · rename_i row held
    refine .bind (.readStatuses faithful found _) fun statuses _ _ => ?_
    obtain ⟨r, -, written, -⟩ := faithful.release held
    exact .ofExcept (written.toRelease id statuses)

theorem not_isSpoilt_getStatus (faithful : l.Faithful ts) (found : db.tables = some ts) {id : Int}
    (failed : (db.getStatus c id).1 = .error f) : f.isSpoilt = false := by
  refine not_isSpoilt_of_run ?_ failed
  refine .bind (.tables _) fun us mid ran => .bind (.carry _) fun _ last carried => ?_
  obtain ⟨found', rfl⟩ := Work.yields_tables.1 ran
  obtain rfl := Option.some.inj (found.symm.trans found')
  split
  · exact .throw rfl
  · rename_i row held
    obtain ⟨status, read, -⟩ := faithful.exists_toStatus (ts.statuses.get?_eq_some_iff.1 held)
    exact .ofExcept read

theorem not_isSpoilt_find (faithful : l.Faithful ts) (found : db.tables = some ts) {s : PageSettings}
    {q : Query} (failed : (db.find s c q).1 = .error f) : f.isSpoilt = false := by
  unfold Database.find at failed
  split at failed
  · rw [← Except.error.inj failed]
    rfl
  · rw [← Except.error.inj failed]
    rfl
  · rename_i limit offset clauses _ _
    refine not_isSpoilt_of_run ?_ failed
    refine .bind (.compose _ _) fun _ _ composed => .bind (.tables _) fun us mid ran => ?_
    obtain ⟨-, rfl⟩ := Work.yields_compose.1 composed
    obtain ⟨found', rfl⟩ := Work.yields_tables.1 ran
    obtain rfl := Option.some.inj (found.symm.trans found')
    refine .bind (.resolve _ _) fun _ _ resolved => ?_
    obtain ⟨-, rfl⟩ := Work.yields_resolve.1 resolved
    simp only [Work.throw_bind]
    refine .guarded rfl (.bind (.compose _ _) fun _ _ again => .bind (.carry _) fun _ _ carried => ?_)
    obtain ⟨-, rfl⟩ := Work.yields_compose.1 again
    obtain ⟨-, rfl⟩ := Work.yields_carry.1 carried
    refine .bind (.readStatuses faithful found _) fun statuses _ _ => ?_
    have readable : ∀ row ∈ takeRows limit ((SortOrder.sort clauses (q.matching ts)).drop
        offset.toNat), ∃ r,
        row.2.toRelease row.1 (statuses.filter fun s => s.releaseId == row.1) = .ok r := by
      intro row shown
      have sorted := List.mem_of_mem_drop (mem_of_mem_takeRows shown)
      have held := (List.mem_filter.1 ((SortOrder.sort_perm _ _).mem_iff.1 sorted)).1
      obtain ⟨r, -, written, -⟩ := faithful.entry held
      exact ⟨_, written.toRelease row.1 _⟩
    obtain ⟨releases, made⟩ := exists_mapM_eq_ok readable
    exact .bind (.ofExcept made) fun _ _ _ => .pure _

theorem not_isSpoilt_isDuplicate (faithful : l.Faithful ts) (found : db.tables = some ts) {p : Profile}
    {r : Release} (failed : (db.isDuplicate c p r).1 = .error f) : f.isSpoilt = false := by
  unfold Database.isDuplicate at failed
  cases answerable : p.objection? r.projection with
  | some objection =>
      rw [answerable] at failed
      rw [← Except.error.inj failed]
      rfl
  | none =>
      simp only [answerable] at failed
      split at failed
      · rename_i g after ran
        obtain rfl := Except.error.inj failed
        refine not_isSpoilt_of_run ?_ (congrArg Prod.fst ran)
        exact .bind (.tables _) fun _ _ _ => .bind (.carry _) fun _ _ _ => .pure _
      · rename_i rows after ran
        have yields := (run_ok_iff.1 ran).2
        simp only [Work.yields_bind, Work.yields_tables, Work.yields_carry, Work.yields_pure] at yields
        obtain ⟨us, _, ⟨found', rfl⟩, _, _, ⟨-, rfl⟩, rfl, -⟩ := yields
        obtain rfl := Option.some.inj (found.symm.trans found')
        obtain ⟨b, answer, -⟩ := faithful.firstDuplicate_priors answerable
        rw [answer] at failed
        cases failed

/-! ## Operations on ids and on the whole -/

theorem not_isSpoilt_deleteRelease {id : Int} (failed : (db.deleteRelease c id).1 = .error f) :
    f.isSpoilt = false := by
  refine not_isSpoilt_of_run ?_ failed
  refine .bind (.tables _) fun _ _ _ => .bind (.carry _) fun _ _ _ => ?_
  split
  · exact .pure _
  · exact .bind (.deleteReleases _) fun _ _ _ => .bind (.check _ _) fun _ _ _ => .pure _

theorem not_isSpoilt_deleteProfile {id : Int} (failed : (db.deleteProfile c id).1 = .error f) :
    f.isSpoilt = false := by
  refine not_isSpoilt_of_run ?_ failed
  refine .bind (.tables _) fun _ _ _ => .bind (.carry _) fun _ _ _ => ?_
  split
  · exact .pure _
  · refine .bind (.check _ _) fun _ _ _ => .bind .acquireLock fun _ _ _ => ?_
    exact .bind (.setTables _) fun _ _ _ => .pure _

theorem not_isSpoilt_getProfile {id : Int} (failed : (db.getProfile c id).1 = .error f) :
    f.isSpoilt = false := by
  refine not_isSpoilt_of_run ?_ failed
  refine .bind (.tables _) fun _ _ _ => .bind (.carry _) fun _ _ _ => ?_
  split
  · exact .throw rfl
  · exact .pure _

theorem not_isSpoilt_mayDownload {a : Airing} {again : Bool}
    (failed : (db.mayDownload c a again).1 = .error f) : f.isSpoilt = false := by
  unfold Database.mayDownload at failed
  dsimp only at failed
  split at failed
  · rw [← Except.error.inj failed]
    rfl
  · split at failed
    · cases failed
    · refine not_isSpoilt_of_run ?_ failed
      exact .bind (.tables _) fun _ _ _ => .bind (.carry _) fun _ _ _ => .pure _

/-- Looking at the tables ends in no fault of a spoilt column. -/
theorem not_isSpoilt_overview {α : Type} {k : RecordKind} {g : Tables → α}
    (failed : (db.run c 1 (Work.tables k >>= fun ts => pure (g ts))).1 = .error f) :
    f.isSpoilt = false :=
  not_isSpoilt_of_run (.bind (.tables _) fun _ _ _ => .pure _) failed

end Database

/-- No operation on a reachable history fails because a label or a list of a record is
spoilt. -/
theorem Ledger.Faithful.not_isSpoilt {l : Ledger} {ts : Tables} (faithful : l.Faithful ts)
    {db : Database} (found : db.tables = some ts) {o : Operation} {c : Call} {f : Fault}
    (ended : o.fault? c db = some f) : f.isSpoilt = false := by
  cases o
  all_goals simp only [Operation.fault?, faultOf?_eq_some_iff] at ended
  case initialise => simp only [Database.initialise, found, reduceCtorEq] at ended
  case store => exact Database.not_isSpoilt_store ended
  case storeStatus => exact Database.not_isSpoilt_storeStatus ended
  case storeProfile => exact Database.not_isSpoilt_storeProfile ended
  case deleteRelease => exact Database.not_isSpoilt_deleteRelease ended
  case deleteProfile => exact Database.not_isSpoilt_deleteProfile ended
  case purge => exact Database.not_isSpoilt_purge ended
  case getRelease => exact Database.not_isSpoilt_getRelease faithful found ended
  case getStatus => exact Database.not_isSpoilt_getStatus faithful found ended
  case listStatuses => exact Database.not_isSpoilt_of_run (.readStatuses faithful found _) ended
  case find => exact Database.not_isSpoilt_find faithful found ended
  case isDuplicate => exact Database.not_isSpoilt_isDuplicate faithful found ended
  case getProfile => exact Database.not_isSpoilt_getProfile ended
  case mayDownload => exact Database.not_isSpoilt_mayDownload ended
  case listProfiles => exact Database.not_isSpoilt_overview ended
  case stats => exact Database.not_isSpoilt_overview ended
  case indexers => exact Database.not_isSpoilt_overview ended

end ReleaseHistory
