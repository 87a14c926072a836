/-
# ReleaseHistory.Proofs.Reading -- every record can be read, with all its statuses

`Tables.Shows` says which release a record is shown as: the release that the record tells
of, with all statuses of its log in ascending order of their ids.

The statuses of several releases are read at once and shared out among them
(`readReleases`).  Along every run that works for any records of the table, and each
release gets exactly its own statuses (`exists_readReleases`).
-/
import ReleaseHistory.Proofs.Ledger
import ReleaseHistory.Search.Query

namespace ReleaseHistory

set_option autoImplicit false

/-! ## Reading lists -/

variable {ε α β : Type}

/-- A list is read entry by entry. -/
theorem mapM_eq_ok_iff {f : α → Except ε β} {as : List α} {bs : List β} :
    as.mapM f = .ok bs ↔ List.Forall₂ (fun a b => f a = .ok b) as bs := by
  induction as generalizing bs with
  | nil =>
      have nothing : ([] : List α).mapM f = .ok [] := rfl
      rw [nothing, List.forall₂_nil_left_iff, Except.ok.injEq, eq_comm]
  | cons a as ih =>
      rw [List.mapM_cons, List.forall₂_cons_left_iff]
      cases head : f a with
      | error e => simp [bind, Except.bind]
      | ok b =>
          simp only [← ih, bind, Except.bind, pure, Except.pure]
          cases as.mapM f <;> simp [eq_comm]

/-- A list whose entries can all be read can be read. -/
theorem exists_mapM_eq_ok {f : α → Except ε β} {as : List α}
    (readable : ∀ a ∈ as, ∃ b, f a = .ok b) : ∃ bs, as.mapM f = .ok bs := by
  induction as with
  | nil => exact ⟨[], rfl⟩
  | cons a as ih =>
      obtain ⟨b, head⟩ := readable a (List.mem_cons_self ..)
      obtain ⟨bs, rest⟩ := ih fun a held => readable a (List.mem_cons_of_mem _ held)
      exact ⟨b :: bs, mapM_eq_ok_iff.2 (.cons head (mapM_eq_ok_iff.1 rest))⟩

/-- What was read is what the entries were read as. -/
theorem mem_iff_of_mapM {f : α → Except ε β} {as : List α} {bs : List β} (read : as.mapM f = .ok bs)
    {b : β} : b ∈ bs ↔ ∃ a ∈ as, f a = .ok b := by
  have related := mapM_eq_ok_iff.1 read
  constructor
  · intro listed
    exact Ledger.Faithful.exists_related related.flip listed
  · rintro ⟨a, held, readAs⟩
    obtain ⟨b', listed, readAs'⟩ := Ledger.Faithful.exists_related related held
    rwa [Except.ok.inj (readAs.symm.trans readAs')]

/-- Reading a list fails as its first entry does that cannot be read. -/
theorem mapM_eq_error_iff {f : α → Except ε β} {as : List α} {e : ε} :
    as.mapM f = .error e ↔ ∃ before a after, as = before ++ a :: after ∧
      (∀ d ∈ before, ∃ b, f d = .ok b) ∧ f a = .error e := by
  constructor
  · intro failed
    induction as with
    | nil => cases failed
    | cons a as ih =>
        rw [List.mapM_cons] at failed
        cases head : f a with
        | error e' =>
            rw [head] at failed
            obtain rfl : e' = e := Except.error.inj failed
            exact ⟨[], a, as, rfl, nofun, head⟩
        | ok b =>
            simp only [head, bind, Except.bind] at failed
            cases rest : as.mapM f with
            | ok bs => simp [rest, pure, Except.pure] at failed
            | error e' =>
                rw [rest] at failed ih
                obtain ⟨before, d, after, rfl, readable, stuck⟩ := ih failed
                exact ⟨a :: before, d, after, rfl, List.forall_mem_cons.2 ⟨⟨b, head⟩, readable⟩, stuck⟩
  · rintro ⟨before, a, after, rfl, readable, failed⟩
    obtain ⟨bs, read⟩ := exists_mapM_eq_ok readable
    rw [List.mapM_append, read, List.mapM_cons, failed]
    rfl

/-- Choosing among what was read is choosing what to read, if the choice can be made before
reading. -/
theorem mapM_filter {f : α → Except ε β} {p : β → Bool} {q : α → Bool} {as : List α} {bs : List β}
    (read : as.mapM f = .ok bs) (same : ∀ a ∈ as, ∀ b, f a = .ok b → p b = q a) :
    (as.filter q).mapM f = .ok (bs.filter p) := by
  rw [mapM_eq_ok_iff] at read ⊢
  induction read with
  | nil => exact .nil
  | @cons a b as bs head rest ih =>
      have later := ih fun a held => same a (List.mem_cons_of_mem _ held)
      rw [List.filter_cons, List.filter_cons, same a (List.mem_cons_self ..) b head]
      split
      · exact .cons head later
      · exact later

/-! ## Releases with their statuses -/

/-- The record is shown as the release, with all statuses of its log. -/
def Tables.Shows (ts : Tables) (row : Int × StoredRelease) (r : Release) : Prop :=
  ∃ statuses, ((ts.statusesOf [row.1]).mapM fun s => s.2.toStatus s.1) = .ok statuses ∧
    row.2.toRelease row.1 statuses = .ok r

namespace Ledger.Faithful

variable {l : Ledger} {ts : Tables}

/-- Every status can be read, as one of its release. -/
theorem exists_toStatus (faithful : l.Faithful ts) {s : Int × StoredStatus}
    (held : s ∈ ts.statuses.rows) :
    ∃ status, s.2.toStatus s.1 = .ok status ∧ status.releaseId = s.2.releaseId := by
  obtain ⟨rows, perm, logged⟩ := faithful.log s.2.releaseId
  have own : s ∈ ts.statusesOf [s.2.releaseId] := List.mem_filter.2 ⟨held, by simp⟩
  obtain ⟨status, -, written, -⟩ := exists_related logged.flip (perm.mem_iff.2 own)
  exact ⟨_, written.toStatus s.1, (congrArg Attempt.releaseId written.attempt).symm⟩

/-- Reading statuses at once and sharing them out shows each release with its own. -/
theorem exists_readReleases (faithful : l.Faithful ts) {rows : List (Int × StoredRelease)}
    (held : ∀ row ∈ rows, row ∈ ts.releases.rows) :
    ∃ statuses releases,
      ((ts.statusesOf (rows.map Prod.fst)).mapM fun s => s.2.toStatus s.1) = .ok statuses ∧
      readReleases statuses rows = .ok releases ∧ List.Forall₂ ts.Shows rows releases := by
  have readable : ∀ s ∈ ts.statusesOf (rows.map Prod.fst), ∃ status, s.2.toStatus s.1 = .ok status := by
    intro s listed
    obtain ⟨status, read, -⟩ := faithful.exists_toStatus (List.mem_filter.1 listed).1
    exact ⟨status, read⟩
  obtain ⟨statuses, read⟩ := exists_mapM_eq_ok readable
  have own : ∀ row ∈ rows, ((ts.statusesOf [row.1]).mapM fun s => s.2.toStatus s.1) =
      .ok (statuses.filter fun s => s.releaseId == row.1) := by
    intro row shown
    have part : ts.statusesOf [row.1] =
        (ts.statusesOf (rows.map Prod.fst)).filter fun s => s.2.releaseId == row.1 := by
      unfold Tables.statusesOf
      rw [List.filter_filter]
      apply List.filter_congr
      intro s _
      by_cases its : s.2.releaseId = row.1
      · simp [its, List.mem_map_of_mem (f := Prod.fst) shown]
      · simp [its]
    rw [part]
    apply mapM_filter read
    intro s listed status readAs
    obtain ⟨status', readAs', owner⟩ := faithful.exists_toStatus (List.mem_filter.1 listed).1
    obtain rfl := Except.ok.inj (readAs.symm.trans readAs')
    rw [owner]
  have complete : ∀ row ∈ rows, ∃ r, row.2.toRelease row.1
      (statuses.filter fun s => s.releaseId == row.1) = .ok r := by
    intro row shown
    obtain ⟨r, -, written, -⟩ := faithful.entry (held row shown)
    exact ⟨_, written.toRelease row.1 _⟩
  obtain ⟨releases, made⟩ := exists_mapM_eq_ok complete
  refine ⟨statuses, releases, read, made, ?_⟩
  apply ((List.forall₂_and_left _ _).2 ⟨own, mapM_eq_ok_iff.1 made⟩).imp
  intro row r both
  exact ⟨_, both.1, both.2⟩

/-- A record is shown under its id, with the statuses of its log. -/
theorem of_shows (faithful : l.Faithful ts) {row : Int × StoredRelease} (held : row ∈ ts.releases.rows)
    {r : Release} (shows : ts.Shows row r) :
    r.id = row.1 ∧ ((ts.statusesOf [row.1]).mapM fun s => s.2.toStatus s.1) = .ok r.actionStatus := by
  obtain ⟨statuses, read, made⟩ := shows
  obtain ⟨r', -, written, -⟩ := faithful.entry held
  rw [written.toRelease, Except.ok.injEq] at made
  rw [← made]
  exact ⟨rfl, read⟩

/-- The ids of kept releases fit in 64 bits. -/
theorem all_fits64 (faithful : l.Faithful ts) {rows : List (Int × StoredRelease)}
    (held : ∀ row ∈ rows, row ∈ ts.releases.rows) : (rows.map Prod.fst).all Work.fits64 = true := by
  rw [List.all_map, List.all_eq_true]
  intro row shown
  exact faithful.fits row (held row shown)

end Ledger.Faithful

/-- The rows of a page are among those that it is taken from. -/
theorem mem_of_mem_takeRows {α : Type} {limit : Int} {rows : List α} {row : α}
    (taken : row ∈ takeRows limit rows) : row ∈ rows := by
  unfold takeRows at taken
  split at taken
  · exact taken
  · exact List.mem_of_mem_take taken

/-! ## Reading statuses in a transaction -/

/-- Statuses of few enough releases are read. -/
theorem Work.yields_readStatuses_of_read {db : Database} {ts : Tables} {ids : List Int}
    {statuses : List ActionStatus} (found : db.tables = some ts)
    (few : ids.length ≤ Statement.maxValues) (fit : ids.all fits64 = true)
    (read : ((ts.statusesOf ids).mapM fun s => s.2.toStatus s.1) = .ok statuses) :
    (readStatuses ids).Yields db statuses db := by
  refine yields_readStatuses.2 ⟨rfl, ?_⟩
  cases ids with
  | nil =>
      have none : ts.statusesOf [] = [] := List.filter_eq_nil_iff.2 fun _ _ => by simp
      rw [none] at read
      exact .inl ⟨rfl, (Except.ok.inj read).symm⟩
  | cons id ids =>
      have fits : Statement.outage? [(id :: ids).length] 0 = Option.none :=
        Statement.outage?_eq_none_iff.2 ⟨by simp [Statement.maxConditions], by simpa using few⟩
      exact .inr ⟨by simp, fits, fit, ts, found, read⟩

/-- What is read is what can be read. -/
theorem Work.of_yields_readStatuses {db db' : Database} {ts : Tables} {ids : List Int}
    {statuses answer : List ActionStatus} (found : db.tables = some ts)
    (read : ((ts.statusesOf ids).mapM fun s => s.2.toStatus s.1) = .ok statuses)
    (ran : (readStatuses ids).Yields db answer db') : answer = statuses := by
  obtain ⟨-, ⟨rfl, rfl⟩ | ⟨-, -, -, us, found', read'⟩⟩ := yields_readStatuses.1 ran
  · have none : ts.statusesOf [] = [] := List.filter_eq_nil_iff.2 fun _ _ => by simp
    rw [none] at read
    exact Except.ok.inj read
  · obtain rfl := Option.some.inj (found.symm.trans found')
    exact Except.ok.inj (read'.symm.trans read)

/-- Reading statuses fails only where the statement is too large, where a number does not fit, and
where a status cannot be read. -/
theorem Work.fails_readStatuses {db : Database} {ts : Tables} {ids : List Int} {f : Fault}
    (found : db.tables = some ts) :
    (readStatuses ids).Fails db f →
      (∃ o, Statement.outage? [ids.length] 0 = some o ∧ .unavailable o = f) ∨
        ids.all fits64 = false ∧ .overflow = f ∨
          ((ts.statusesOf ids).mapM fun s => s.2.toStatus s.1) = .error f := by
  unfold readStatuses
  cases ids with
  | nil => simp
  | cons id ids =>
      simp only [List.isEmpty_cons, Bool.false_eq_true, if_false, fails_bind, fails_compose,
        yields_compose, fails_tables, yields_tables, fails_carry, yields_carry, fails_mapM_ofExcept]
      rintro (large | ⟨_, _, ⟨-, rfl⟩, ⟨missing, -⟩ | ⟨us, _, ⟨found', rfl⟩, unfit |
        ⟨_, _, ⟨-, rfl⟩, unread⟩⟩⟩)
      · exact .inl large
      · rw [found] at missing
        cases missing
      · exact .inr (.inl unfit)
      · obtain rfl := Option.some.inj (found.symm.trans found')
        exact .inr (.inr unread)

/-- A release that is held is read as its record shows it, with the statuses that are listed for
it. -/
theorem Ledger.Faithful.exists_read {l : Ledger} {ts : Tables} (faithful : l.Faithful ts)
    {row : Int × StoredRelease} (held : row ∈ ts.releases.rows) :
    ∃ statuses r, ((ts.statusesOf [row.1]).mapM fun s => s.2.toStatus s.1) = .ok statuses ∧
      row.2.toRelease row.1 statuses = .ok r ∧
      ∀ (db : Database) (c : Call), db.tables = some ts → c.check 1 = .ok () →
        db.listStatuses c row.1 = (.ok statuses, db) ∧ db.getRelease c row.1 = (.ok r, db) := by
  have readable : ∀ s ∈ ts.statusesOf [row.1], ∃ status, s.2.toStatus s.1 = .ok status := by
    intro s listed
    obtain ⟨status, read, -⟩ := faithful.exists_toStatus (List.mem_filter.1 listed).1
    exact ⟨status, read⟩
  obtain ⟨statuses, read⟩ := exists_mapM_eq_ok readable
  obtain ⟨r, -, written, -⟩ := faithful.entry held
  refine ⟨statuses, r.asRead row.1 row.2 statuses, read, written.toRelease row.1 statuses, ?_⟩
  intro db c found allowed
  have fit : [row.1].all Work.fits64 = true := by simpa using faithful.fits row held
  have listed : (Work.readStatuses [row.1]).Yields db statuses db :=
    Work.yields_readStatuses_of_read found (show 1 ≤ Statement.maxValues by decide) fit read
  have present : ts.releases.get? row.1 = some row.2 := ts.releases.get?_eq_some_iff.2 held
  refine ⟨Database.run_ok_iff.2 ⟨allowed, listed⟩, Database.run_ok_iff.2 ⟨allowed, ?_⟩⟩
  simp only [Work.yields_bind, Work.yields_tables, Work.yields_carry]
  refine ⟨ts, db, ⟨found, rfl⟩, (), db, ⟨fit, rfl⟩, ?_⟩
  rw [present]
  simp only [Work.yields_bind, Work.yields_ofExcept]
  exact ⟨statuses, db, listed, written.toRelease row.1 statuses, rfl⟩

end ReleaseHistory
