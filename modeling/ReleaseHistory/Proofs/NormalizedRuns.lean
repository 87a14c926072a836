/-
# ReleaseHistory.Proofs.NormalizedRuns -- normalizing beforehand decides nothing

A history in which every release was normalized before it was kept goes through the same
transactions as the history itself (`Work.Carries`, with one rule for each statement).  So an
operation whose release was normalized first does to the one what it does without to the other,
and comes to the same decision (`Operation.perform_normalize`, `Operation.decision?_normalize`).

By induction on the run that holds along every run (`Run.decisions_normalize`).  Two runs that
differ in how often the releases they are given were normalized first become the same run when
all of these are normalized, which makes their decisions the same
(`Run.decisions_eq_of_alike`).
-/
import ReleaseHistory.Proofs.Ledger
import ReleaseHistory.Proofs.Normalization

namespace ReleaseHistory

set_option autoImplicit false

-- as in the module before, so that what normalizing leaves as it is can be seen
attribute [local irreducible] Edition.titleText Edition.stripText Edition.announcedBy

/-! ## Transactions on a normalized history -/

namespace Work

variable {α β γ δ : Type}

/-- The second work does to the normalized history what the first does to the history; its answer
is the image of the other's. -/
def Carries (g : α → γ) (w : Work α) (w' : Work γ) : Prop :=
  ∀ db : Database, w'.run db.normalize = (w.run db).map (Prod.map g Database.normalize)

namespace Carries

theorem bind {g : α → γ} {h : β → δ} {w : Work α} {w' : Work γ} {f : α → Work β} {f' : γ → Work δ}
    (first : Carries g w w') (rest : ∀ a, Carries h (f a) (f' (g a))) :
    Carries h (w >>= f) (w' >>= f') := by
  intro db
  rw [StateT.run_bind, StateT.run_bind, first db]
  cases w.run db with
  | error f => rfl
  | ok r => exact rest r.1 r.2

theorem pure {g : α → γ} (a : α) : Carries g (Pure.pure a : Work α) (Pure.pure (g a)) := fun _ => rfl

theorem throw {g : α → γ} (f : Fault) :
    Carries g (MonadExcept.throw f : Work α) (MonadExcept.throw f : Work γ) := fun _ => rfl

theorem guarded {g : α → γ} {p : Prop} [Decidable p] {f : Fault} {w : Work α} {w' : Work γ}
    (rest : Carries g w w') :
    Carries g (if p then MonadExcept.throw f else w) (if p then MonadExcept.throw f else w') := by
  split
  · exact throw f
  · exact rest

/-! ### Statements -/

theorem tables (k : RecordKind) : Carries Tables.normalize (Work.tables k) (Work.tables k) := by
  rintro ⟨found, locked⟩
  cases found <;> rfl

theorem carry (ns : List Int) : Carries id (Work.carry ns) (Work.carry ns) := by
  unfold Work.carry
  split
  · exact pure ()
  · exact throw _

theorem acquireLock : Carries id Work.acquireLock Work.acquireLock := by
  rintro ⟨found, locked⟩
  cases locked <;> rfl

theorem takeId (chosen : Option Int) : Carries id (Work.takeId chosen) (Work.takeId chosen) := by
  cases chosen with
  | none => exact throw _
  | some k => exact pure k

theorem setTables (ts : Tables) : Carries id (Work.setTables ts) (Work.setTables ts.normalize) :=
  fun _ => rfl

theorem check (c : Call) (n : Nat) : Carries id (Work.check c n) (Work.check c n) := by
  intro db
  unfold Work.check
  cases c.check n <;> rfl

theorem compose (conditions : List Nat) (behind : Nat) :
    Carries id (Work.compose conditions behind) (Work.compose conditions behind) := by
  unfold Work.compose
  split
  · exact throw _
  · exact pure ()

/-! ### Writing -/

theorem insertRelease (draws : List DrawnId) (k : Int) (row : StoredRelease) :
    Carries id (Work.insertRelease draws k row) (Work.insertRelease draws k row.normalize) := by
  unfold Work.insertRelease
  rw [StoredRelease.numbers_normalize]
  refine bind (tables _) fun ts => bind (carry _) fun _ => bind acquireLock fun _ => ?_
  simp only [throw_bind]
  rw [Tables.normalize, Table.contains_map, Table.nextId?_map]
  refine guarded (bind (takeId _) fun id => ?_)
  rw [Table.insert_map]
  exact bind (setTables _) fun _ => pure _

theorem insertStatus (draws : List DrawnId) (s : StoredStatus) :
    Carries id (Work.insertStatus draws s) (Work.insertStatus draws s) := by
  unfold Work.insertStatus
  refine bind (tables _) fun ts => bind (carry _) fun _ => bind acquireLock fun _ => ?_
  refine bind (takeId _) fun _ => ?_
  simp only [throw_bind]
  rw [Tables.normalize, Table.contains_map]
  exact guarded (bind (setTables _) fun _ => pure _)

theorem deleteReleases (ids : List Int) :
    Carries id (Work.deleteReleases ids) (Work.deleteReleases ids) := by
  unfold Work.deleteReleases
  refine bind (compose _ _) fun _ => bind (tables _) fun ts => bind acquireLock fun _ => ?_
  rw [Tables.dropReleases_normalize]
  exact setTables _

theorem addProfile (draws : List DrawnId) (p : NamedSwitches) :
    Carries id (Work.addProfile draws p) (Work.addProfile draws p) := by
  unfold Work.addProfile
  refine bind (tables _) fun ts => bind acquireLock fun _ => bind (takeId _) fun _ => ?_
  simp only [throw_bind]
  exact guarded (bind (setTables _) fun _ => pure _)

theorem replaceProfile (k : Int) (p : NamedSwitches) :
    Carries id (Work.replaceProfile k p) (Work.replaceProfile k p) := by
  unfold Work.replaceProfile
  refine bind (tables _) fun ts => bind (carry _) fun _ => ?_
  rw [Tables.profiles_normalize]
  cases ts.profiles.get? k with
  | none => exact throw _
  | some old =>
      simp only [throw_bind]
      split
      · exact bind acquireLock fun _ => guarded (bind (setTables _) fun _ => pure _)
      · exact pure _

theorem batch (p : Purge) (cutoff : Option DateTime) (size : Int) (c : Call) (k : Nat) :
    Carries id (p.batch cutoff size c k) (p.batch cutoff size c k) := by
  unfold Purge.batch
  refine bind (compose _ _) fun _ => bind (tables _) fun ts => bind (carry _) fun _ => ?_
  dsimp only
  rw [p.matching_normalize]
  split
  · exact pure _
  · exact bind (deleteReleases _) fun _ => bind (check _ _) fun _ => pure _

end Carries

end Work

/-! ## Operations on a normalized history -/

/-- The second write ends as the first does, with the normalized history of what that leaves. -/
structure Written.Carries {α : Type} (w w' : Written α) : Prop where
  outcome : w'.outcome = w.outcome
  database : w'.database = w.database.normalize

namespace Database

variable {α : Type}

theorem run_normalize {β : Type} {g : α → β} {w : Work α} {w' : Work β} (carries : w.Carries g w')
    (db : Database) (c : Call) (n : Nat) :
    db.normalize.run c n w' = ((db.run c n w).1.map g, (db.run c n w).2.normalize) := by
  unfold run
  cases c.check n with
  | error f => rfl
  | ok u =>
      simp only [carries db]
      cases w.run db <;> rfl

/-- A transaction with the same answer is one of the same outcome. -/
theorem run_normalize_of_same {w w' : Work α} (carries : w.Carries id w') (db : Database) (c : Call)
    (n : Nat) : db.normalize.run c n w' = ((db.run c n w).1, (db.run c n w).2.normalize) := by
  rw [run_normalize carries, Except.map_id, id_eq]

theorem written_normalize {w w' : Work Int} (carries : w.Carries id w') (db : Database) (c : Call)
    {failed failed' : α} {done done' : Int → α} :
    Written.Carries
      (match db.run c 1 w with
        | (.error f, db) => (⟨.error f, failed, db⟩ : Written α)
        | (.ok id, db) => ⟨.ok id, done id, db⟩)
      (match db.normalize.run c 1 w' with
        | (.error f, db) => (⟨.error f, failed', db⟩ : Written α)
        | (.ok id, db) => ⟨.ok id, done' id, db⟩) := by
  rw [run_normalize_of_same carries]
  obtain ⟨f, ran⟩ | ⟨id, after, ran⟩ := db.run_cases c 1 w <;> rw [ran]
  · exact ⟨rfl, rfl⟩
  · exact ⟨rfl, rfl⟩

theorem store_normalize (db : Database) (c : Call) (r : Release) :
    (db.store c r).Carries (db.normalize.store c r.normalize) := by
  unfold store
  rw [show r.normalize.timestamp = r.timestamp from rfl]
  cases c.stamp r.timestamp with
  | error f => exact ⟨rfl, rfl⟩
  | ok t =>
      have written : StoredRelease.ofRelease { r.normalize with timestamp := some t } t =
          (StoredRelease.ofRelease { r with timestamp := some t } t).map StoredRelease.normalize :=
        StoredRelease.ofRelease_normalize { r with timestamp := some t } t
      simp only [written]
      cases StoredRelease.ofRelease { r with timestamp := some t } t with
      | error f => exact ⟨rfl, rfl⟩
      | ok row =>
          refine written_normalize ?_ db c
          exact .bind (.insertRelease _ _ _) fun _ => .bind (.check _ _) fun _ => .pure _

theorem storeStatus_normalize (db : Database) (c : Call) (s : ActionStatus) :
    (db.storeStatus c s).Carries (db.normalize.storeStatus c s) := by
  unfold storeStatus
  cases c.stamp s.timestamp with
  | error f => exact ⟨rfl, rfl⟩
  | ok t =>
      cases written : StoredStatus.ofStatus { s with timestamp := some t } t with
      | error f =>
          simp only [written]
          exact ⟨rfl, rfl⟩
      | ok row =>
          simp only [written]
          refine written_normalize ?_ db c
          exact .bind (.insertStatus _ _) fun _ => .bind (.check _ _) fun _ => .pure _

theorem storeProfile_normalize (db : Database) (c : Call) (p : Profile) :
    (db.storeProfile c p).Carries (db.normalize.storeProfile c p) := by
  unfold storeProfile
  refine written_normalize ?_ db c
  dsimp only
  split
  · exact .bind (.addProfile _ _) fun _ => .bind (.check _ _) fun _ => .pure _
  · exact .bind (.replaceProfile _ _) fun _ => .bind (.check _ _) fun _ => .pure _

theorem deleteRelease_normalize (db : Database) (c : Call) (k : Int) :
    (db.normalize.deleteRelease c k).2 = (db.deleteRelease c k).2.normalize := by
  refine congrArg Prod.snd (run_normalize_of_same ?_ db c 1)
  refine .bind (.tables _) fun ts => .bind (.carry _) fun _ => ?_
  rw [Tables.normalize, Table.contains_map]
  split
  · exact .pure _
  · exact .bind (.deleteReleases _) fun _ => .bind (.check _ _) fun _ => .pure _

theorem deleteProfile_normalize (db : Database) (c : Call) (k : Int) :
    (db.normalize.deleteProfile c k).2 = (db.deleteProfile c k).2.normalize := by
  refine congrArg Prod.snd (run_normalize_of_same ?_ db c 1)
  refine .bind (.tables _) fun ts => .bind (.carry _) fun _ => ?_
  rw [Tables.profiles_normalize]
  split
  · exact .pure _
  · refine .bind (.check _ _) fun _ => .bind .acquireLock fun _ => ?_
    exact .bind (.setTables _) fun _ => .pure _

theorem releaseCount_normalize (db : Database) : db.normalize.releaseCount = db.releaseCount := by
  obtain ⟨found, locked⟩ := db
  cases found with
  | none => rfl
  | some ts => exact Table.size_map _ _

/-- Every batch of a purge takes the same releases, so that all of them do. -/
theorem batchesFrom_normalize (p : Purge) (cutoff : Option DateTime) (size : Int) (c : Call)
    (fuel k : Nat) (db : Database) :
    p.batchesFrom cutoff size c fuel k db.normalize =
      ((p.batchesFrom cutoff size c fuel k db).1, (p.batchesFrom cutoff size c fuel k db).2.normalize) := by
  induction fuel generalizing k db with
  | zero => rfl
  | succ fuel ih =>
      have batch := run_normalize_of_same (.batch p cutoff size c k) db c (2 * k + 1)
      unfold Purge.batchesFrom
      rw [batch]
      obtain ⟨f, ran⟩ | ⟨ids, after, ran⟩ := db.run_cases c (2 * k + 1) (p.batch cutoff size c k)
      · rw [ran]
      · rw [ran]
        cases ids with
        | nil => rfl
        | cons id ids =>
            simp only [ih]
            cases p.batchesFrom cutoff size c fuel (k + 1) after with
            | mk outcome left => cases outcome <;> rfl

theorem purge_normalize (db : Database) (size : Int) (c : Call) (p : Purge) :
    (db.normalize.purge size c p).2 = (db.purge size c p).2.normalize := by
  unfold purge
  split
  · rfl
  · split
    · rfl
    · rw [releaseCount_normalize, batchesFrom_normalize]

/-- The same candidates are found to repeat a release. -/
theorem isDuplicate_normalize (db : Database) (c : Call) (p : Profile) (r : Release) :
    (db.normalize.isDuplicate c p r.normalize).1 = (db.isDuplicate c p r).1 := by
  unfold isDuplicate
  rw [Release.projection_normalize]
  cases p.objection? r.projection with
  | some f => rfl
  | none =>
      have carries : Work.Carries (List.map (Prod.map id StoredRelease.normalize))
          (do
            let ts ← Work.tables .release
            Work.carry [r.filterId, r.id]
            return ts.priors p.toSwitches r)
          (do
            let ts ← Work.tables .release
            Work.carry [r.normalize.filterId, r.normalize.id]
            return ts.priors p.toSwitches r.normalize) := by
        refine .bind (.tables _) fun ts => .bind (.carry _) fun _ => ?_
        rw [ts.priors_normalize]
        exact .pure _
      simp only [run_normalize carries]
      cases db.run c 1 _ with
      | mk outcome after =>
          cases outcome with
          | error f => rfl
          | ok rows => simp only [Except.map, firstDuplicate_normalize]

/-- The same units may be downloaded. -/
theorem mayDownload_normalize (db : Database) (c : Call) (a : Airing) (again : Bool) :
    (db.normalize.mayDownload c { a with title := Edition.titleText a.title } again).1 =
      (db.mayDownload c a again).1 := by
  unfold mayDownload
  have unit : ({ a with title := Edition.titleText a.title } : Airing).unit? = a.unit? := rfl
  rw [Edition.titleText_titleText, unit]
  dsimp only
  split
  · rfl
  · cases a.unit? with
    | none => rfl
    | some u =>
        dsimp only
        refine (congrArg Prod.fst (run_normalize_of_same ?_ db c 1) :)
        refine .bind (.tables _) fun ts => .bind (.carry _) fun _ => ?_
        rw [ts.deliveries_normalize]
        exact .pure _

end Database

namespace Operation

/-- The operation with the release that it is given normalized first. -/
def normalize : Operation → Operation
  | .store r => .store r.normalize
  | .isDuplicate p r => .isDuplicate p r.normalize
  | .mayDownload a again => .mayDownload { a with title := Edition.titleText a.title } again
  | o => o

/-- Normalizing the release of an operation does nothing to a normalized history. -/
theorem perform_normalize (o : Operation) (c : Call) (db : Database) :
    o.normalize.perform c db.normalize = (o.perform c db).normalize := by
  cases o
  case initialise =>
    obtain ⟨found, locked⟩ := db
    cases found <;> cases locked <;> rfl
  case store r => exact (db.store_normalize c r).database
  case storeStatus s => exact (db.storeStatus_normalize c s).database
  case storeProfile p => exact (db.storeProfile_normalize c p).database
  case deleteRelease id => exact db.deleteRelease_normalize c id
  case deleteProfile id => exact db.deleteProfile_normalize c id
  case purge size p => exact db.purge_normalize size c p
  all_goals simp only [normalize, perform, Database.getRelease_snd, Database.getStatus_snd,
    Database.listStatuses_snd, Database.getProfile_snd, Database.listProfiles_snd,
    Database.isDuplicate_snd, Database.mayDownload_snd, Database.find_snd, Database.stats_snd,
    Database.indexers_snd]

end Operation

/-- What an operation decides: the id that a record gets, or the answer to a check. -/
inductive Decision where
  | assigned (outcome : Except Fault Int)
  | answered (outcome : Except Fault Bool)
  deriving DecidableEq

/-- The decision of an operation, if it comes to one. -/
def Operation.decision? (o : Operation) (c : Call) (db : Database) : Option Decision :=
  match o with
  | .store r => some (.assigned (db.store c r).outcome)
  | .storeStatus s => some (.assigned (db.storeStatus c s).outcome)
  | .storeProfile p => some (.assigned (db.storeProfile c p).outcome)
  | .isDuplicate p r => some (.answered (db.isDuplicate c p r).1)
  | .mayDownload a again => some (.answered (db.mayDownload c a again).1)
  | _ => none

theorem Operation.decision?_normalize (o : Operation) (c : Call) (db : Database) :
    o.normalize.decision? c db.normalize = o.decision? c db := by
  cases o
  case store r => exact congrArg (some ∘ Decision.assigned) (db.store_normalize c r).outcome
  case storeStatus s => exact congrArg (some ∘ Decision.assigned) (db.storeStatus_normalize c s).outcome
  case storeProfile p => exact congrArg (some ∘ Decision.assigned) (db.storeProfile_normalize c p).outcome
  case isDuplicate p r => exact congrArg (some ∘ Decision.answered) (db.isDuplicate_normalize c p r)
  case mayDownload a again => exact congrArg (some ∘ Decision.answered) (db.mayDownload_normalize c a again)
  all_goals rfl

/-! ## Runs -/

/-- The step with the release of its operation normalized first. -/
def Step.normalize (s : Step) : Step := { s with operation := s.operation.normalize }

namespace Run

/-- The decisions of a run, the last one first. -/
def decisions : Run → List (Option Decision)
  | [] => []
  | s :: run => s.operation.decision? s.call (s.before (Run.database run)) :: decisions run

/-- A run on normalized releases leaves the normalized history. -/
theorem database_normalize (run : Run) :
    Run.database (run.map Step.normalize) = run.database.normalize := by
  induction run with
  | nil => rfl
  | cons s run ih =>
      rw [List.map_cons, Run.database, ih, Run.database]
      have performed := s.operation.perform_normalize s.call (s.before (Run.database run))
      exact congrArg (fun db : Database => { db with locked := false }) performed

/-- A run on normalized releases comes to the same decisions. -/
theorem decisions_normalize (run : Run) : decisions (run.map Step.normalize) = decisions run := by
  induction run with
  | nil => rfl
  | cons s run ih =>
      rw [List.map_cons, decisions, decisions, ih, database_normalize]
      exact congrArg (· :: decisions run)
        (s.operation.decision?_normalize s.call (s.before (Run.database run)))

end Run

/-! ## Runs that differ in what was normalized beforehand -/

/-- The operations are the same up to how often the release that they are given was normalized
beforehand.  The guard of a series is given the title of a release. -/
inductive Operation.Alike : Operation → Operation → Prop
  | same (o : Operation) : Alike o o
  | store (r : Release) (m n : Nat) :
      Alike (.store (Release.normalize^[m] r)) (.store (Release.normalize^[n] r))
  | isDuplicate (p : Profile) (r : Release) (m n : Nat) :
      Alike (.isDuplicate p (Release.normalize^[m] r)) (.isDuplicate p (Release.normalize^[n] r))
  | mayDownload (a : Airing) (r : Release) (again : Bool) (m n : Nat) :
      Alike (.mayDownload { a with title := (Release.normalize^[m] r).title } again)
        (.mayDownload { a with title := (Release.normalize^[n] r).title } again)

/-- The steps are alike operations with the same call under the same lock: the clock shows the
same in both, and the same ids are drawn. -/
structure Step.Alike (s s' : Step) : Prop where
  operation : s.operation.Alike s'.operation
  call : s'.call = s.call
  locked : s'.locked = s.locked

theorem Operation.Alike.normalize_eq {o o' : Operation} (alike : o.Alike o') :
    o'.normalize = o.normalize := by
  cases alike with
  | same => rfl
  | store r m n => rw [normalize, normalize, r.normalize_iterate, r.normalize_iterate]
  | isDuplicate p r m n => rw [normalize, normalize, r.normalize_iterate, r.normalize_iterate]
  | mayDownload a r again m n => rw [normalize, normalize, r.titleText_iterate, r.titleText_iterate]

theorem Step.Alike.normalize_eq {s s' : Step} (alike : s.Alike s') : s'.normalize = s.normalize := by
  rw [Step.normalize, Step.normalize, alike.operation.normalize_eq, alike.call, alike.locked]

namespace Run

/-- Runs that differ only in how often releases were normalized beforehand come to the same
decisions: the same ids, the same answers and the same faults.  A release that was kept before has
the id that it got, so that it is the same release but for normalizing in both runs, too. -/
theorem decisions_eq_of_alike {run run' : Run} (alike : List.Forall₂ Step.Alike run run') :
    decisions run' = decisions run := by
  have same : run'.map Step.normalize = run.map Step.normalize := by
    induction alike with
    | nil => rfl
    | cons first _ ih => rw [List.map_cons, List.map_cons, first.normalize_eq, ih]
  rw [← decisions_normalize run', same, decisions_normalize]

/-- A release is kept behind one that has the greatest id, under an id that is drawn, and
delivered; a candidate is compared with it. -/
def comparison (kept candidate : Release) : Run :=
  let drawing : Call :=
    { Call.inMay with draws := [⟨Table.maxId, by decide, by decide⟩, ⟨7, by decide, by decide⟩] }
  [{ operation := .isDuplicate { title := true, proper := true } candidate, call := .inMay },
    { operation := .storeStatus { releaseId := 7 }, call := .inMay },
    { operation := .store kept, call := drawing },
    { operation := .store { torrentName := "z", id := Table.maxId }, call := .inMay }]

/-- A correction repeats a correction, whether the marker of the one and the other stands in the
title still or in the flag. -/
theorem decisions_comparison :
    let kept : Release := { torrentName := "a", title := "A PROPER" }
    let candidate : Release := { torrentName := "b", title := "a.proper" }
    decisions (comparison kept.normalize candidate) =
        [some (.answered (.ok true)), some (.assigned (.ok 1)), some (.assigned (.ok 7)),
          some (.assigned (.ok Table.maxId))] ∧
      decisions (comparison kept candidate.normalize.normalize) =
        decisions (comparison kept.normalize candidate) := by
  intro kept candidate
  have alike : List.Forall₂ Step.Alike (comparison kept.normalize candidate)
      (comparison kept candidate.normalize.normalize) :=
    .cons ⟨.isDuplicate _ candidate 0 2, rfl, rfl⟩
      (.cons ⟨.same _, rfl, rfl⟩
        (.cons ⟨.store kept 1 0, rfl, rfl⟩ (.cons ⟨.same _, rfl, rfl⟩ .nil)))
  exact ⟨by decide +kernel, decisions_eq_of_alike alike⟩

end Run

end ReleaseHistory
