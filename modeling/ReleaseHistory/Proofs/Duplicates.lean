/-
# ReleaseHistory.Proofs.Duplicates -- the duplicate check is a search of the ledger

`Database.isDuplicate` looks at few records: those with the candidate's filter and with
its canonical title, or its name, in a column that was written when they were kept.  It
reads them back and compares the candidate with each; where all of them can be read, that
is `Switches.findDuplicate` among what was read (`firstDuplicate_eq_ok_findDuplicate`).

* A profile that can be asked at all compares what the column holds, so a release that
  the candidate repeats is among those records (`sameRelease_title`,
  `sameRelease_torrentName`).
* Every record of a run can be read, and what is compared of it is what was compared of
  the release that was kept.

So after every run the check answers whether the ledger has a delivered release of the
same filter that the candidate repeats (`isDuplicate_iff_repeats`).
-/
import ReleaseHistory.Proofs.Reading

namespace ReleaseHistory

set_option autoImplicit false

/-! ## What the column tells -/

namespace Switches

variable {s : Switches} {candidate prior : Projection}

theorem sameRelease_torrentName (names : s.comparesNames = true)
    (same : s.sameRelease candidate prior = true) : prior.torrentName = candidate.torrentName := by
  rw [sameRelease, if_pos names, beq_iff_eq] at same
  exact same.symm

theorem sameRelease_title (names : s.comparesNames = false) (title : s.title = true)
    (same : s.sameRelease candidate prior = true) : prior.title = candidate.title := by
  rw [sameRelease, names, if_neg Bool.false_ne_true, List.all_eq_true] at same
  have compared : Dimension.title ∈ s.dimensions :=
    List.mem_filter.2 ⟨Dimension.mem_all _, title⟩
  exact (beq_iff_eq.1 (same .title compared)).symm

end Switches

/-! ## Searching the records -/

/-- A duplicate is found exactly if one of the earlier releases is repeated. -/
theorem Switches.findDuplicate_isSome_iff {s : Switches} {candidate : Projection}
    {priors : List (Int × Projection)} :
    (s.findDuplicate candidate priors).isSome = true ↔
      ∃ prior ∈ priors, s.sameRelease candidate prior.2 = true := by
  induction priors with
  | nil => simp [findDuplicate]
  | cons prior priors ih =>
      rw [findDuplicate]
      cases same : s.sameRelease candidate prior.2 with
      | true => simp [same]
      | false => simp [same, ih]

/-- What the search compares of a record. -/
def readPrior (row : Int × StoredRelease) : Except Fault (Int × Projection) :=
  (row.2.toRelease row.1 []).map fun prior => (row.1, prior.projection)

theorem readPrior_eq_ok_iff {row : Int × StoredRelease} {compared : Int × Projection} :
    readPrior row = .ok compared ↔
      ∃ prior, row.2.toRelease row.1 [] = .ok prior ∧ compared = (row.1, prior.projection) := by
  rw [readPrior]
  cases row.2.toRelease row.1 [] with
  | error f => simp [Except.map]
  | ok prior => simp [Except.map, eq_comm]

/-- Where all records can be read, the search that reads one after the other finds what is found
among all of them. -/
theorem firstDuplicate_eq_ok_findDuplicate (s : Switches) (candidate : Projection)
    {rows : List (Int × StoredRelease)} {priors : List (Int × Projection)}
    (read : rows.mapM readPrior = .ok priors) :
    firstDuplicate s candidate rows = .ok (s.findDuplicate candidate priors) := by
  rw [mapM_eq_ok_iff] at read
  induction read with
  | nil => rfl
  | @cons row compared rows priors head rest ih =>
      obtain ⟨prior, shown, rfl⟩ := readPrior_eq_ok_iff.1 head
      rw [firstDuplicate, shown, Switches.findDuplicate, apply_ite Except.ok, ← ih]
      rfl

/-- The search finds a record exactly if there is one that the candidate repeats, provided that all
records can be read. -/
theorem firstDuplicate_isSome_iff (s : Switches) (candidate : Projection)
    {rows : List (Int × StoredRelease)}
    (readable : ∀ row ∈ rows, ∃ prior, row.2.toRelease row.1 [] = .ok prior) :
    ∃ found, firstDuplicate s candidate rows = .ok found ∧
      (found.isSome = true ↔ ∃ row ∈ rows, ∃ prior, row.2.toRelease row.1 [] = .ok prior ∧
        s.sameRelease candidate prior.projection = true) := by
  have compared : ∀ row ∈ rows, ∃ prior, readPrior row = .ok prior := by
    intro row held
    obtain ⟨prior, shown⟩ := readable row held
    exact ⟨_, readPrior_eq_ok_iff.2 ⟨prior, shown, rfl⟩⟩
  obtain ⟨priors, read⟩ := exists_mapM_eq_ok compared
  refine ⟨_, firstDuplicate_eq_ok_findDuplicate s candidate read, ?_⟩
  rw [Switches.findDuplicate_isSome_iff]
  constructor
  · rintro ⟨prior, listed, same⟩
    obtain ⟨row, held, readAs⟩ := (mem_iff_of_mapM read).1 listed
    obtain ⟨r, shown, rfl⟩ := readPrior_eq_ok_iff.1 readAs
    exact ⟨row, held, r, shown, same⟩
  · rintro ⟨row, held, r, shown, same⟩
    exact ⟨_, (mem_iff_of_mapM read).2 ⟨row, held, readPrior_eq_ok_iff.2 ⟨r, shown, rfl⟩⟩, same⟩

/-! ## The check on the ledger -/

/-- The candidate repeats a delivered release of its filter, other than itself. -/
def Ledger.Repeats (l : Ledger) (s : Switches) (r : Release) : Prop :=
  ∃ id prior, l.release? id = some prior ∧ prior.filterId = r.filterId ∧ (r.id ≠ 0 → id ≠ r.id) ∧
    l.Delivered id ∧ s.sameRelease r.projection prior.projection = true

/-- The profile asks for neither title nor name, or the candidate lacks what it asks for. -/
def Profile.Unanswerable (p : Profile) (r : Release) : Prop :=
  p.title = false ∧ p.comparesNames = false ∨
    p.comparesNames = true ∧ r.projection.torrentName = "" ∨
    p.comparesNames = false ∧ r.projection.title = ""

theorem Profile.objection?_eq_none_iff {p : Profile} {r : Release} :
    p.objection? r.projection = none ↔ ¬p.Unanswerable r := by
  unfold Profile.objection? Profile.Unanswerable
  cases p.title <;> cases p.comparesNames <;> simp

namespace Ledger.Faithful

variable {l : Ledger} {ts : Tables}

/-- Among the records that are compared there is one that the candidate repeats exactly if
there is one in the ledger. -/
theorem priors_iff_repeats (faithful : l.Faithful ts) {s : Switches} {r : Release}
    (asked : s.comparesNames = false → s.title = true) :
    (∃ row ∈ ts.priors s r, ∃ prior, row.2.toRelease row.1 [] = .ok prior ∧
      s.sameRelease r.projection prior.projection = true) ↔ l.Repeats s r := by
  unfold Tables.priors
  simp only [List.mem_filter, Bool.and_eq_true, beq_iff_eq, Bool.or_eq_true, bne_iff_ne]
  constructor
  · rintro ⟨row, ⟨held, ⟨⟨sameFilter, delivered⟩, -⟩, other⟩, read, readBack, same⟩
    obtain ⟨prior, entered, written, -⟩ := faithful.entry held
    rw [written.toRelease, Except.ok.injEq] at readBack
    rw [← readBack, Release.projection_asRead] at same
    refine ⟨row.1, prior, entered, ?_, ?_, faithful.isDelivered_iff.1 delivered, same⟩
    · rw [← sameFilter, written.announcement]
    · rintro known
      exact other.resolve_left known
  · rintro ⟨id, prior, entered, sameFilter, other, approved, same⟩
    obtain ⟨row, held, written, -⟩ := faithful.record entered
    refine ⟨(id, row), ⟨held, ⟨⟨?_, faithful.isDelivered_iff.2 approved⟩, ?_⟩, ?_⟩, _,
      written.toRelease id [], same⟩
    · rw [written.announcement, sameFilter]
    · split
      · rename_i names
        rw [beq_iff_eq, written.announcement]
        exact s.sameRelease_torrentName names same
      · rename_i titles
        have names : s.comparesNames = false := Bool.eq_false_iff.2 titles
        rw [beq_iff_eq, written.normalizedTitle]
        exact s.sameRelease_title names (asked names) same
    · exact (Decidable.em (r.id = 0)).imp_right other

end Ledger.Faithful

/-- The limits of a call never find fault with its arguments. -/
theorem Call.check_ne_invalidArgument (c : Call) (n : Nat) (f : ArgumentFault) :
    c.check n ≠ .error (.invalidArgument f) := by
  intro refused
  rcases of_check_eq_error refused with impossible | impossible | impossible | ⟨_, impossible⟩
  all_goals cases impossible

namespace Database

variable {db : Database} {c : Call} {p : Profile} {r : Release} {ts : Tables}

/-- What makes the check come to an answer, and how the answer is found. -/
theorem isDuplicate_ok_iff {b : Bool} :
    (db.isDuplicate c p r).1 = .ok b ↔
      p.objection? r.projection = none ∧ c.check 1 = .ok () ∧
        ∃ ts, db.tables = some ts ∧ Work.fits64 r.filterId = true ∧ Work.fits64 r.id = true ∧
          (firstDuplicate p.toSwitches r.projection (ts.priors p.toSwitches r)).map Option.isSome =
            .ok b := by
  unfold isDuplicate
  cases p.objection? r.projection with
  | some f => simp
  | none =>
      obtain ⟨f, ran⟩ | ⟨rows, after, ran⟩ := db.run_cases c 1 (do
        let ts ← Work.tables .release
        Work.carry [r.filterId, r.id]
        return ts.priors p.toSwitches r)
      · simp only [ran, reduceCtorEq, true_and, false_iff]
        rintro ⟨allowed, ts, found, filterFits, idFits, -⟩
        have success : db.run c 1 (do
            let ts ← Work.tables .release
            Work.carry [r.filterId, r.id]
            return ts.priors p.toSwitches r) = (.ok (ts.priors p.toSwitches r), db) := by
          rw [run_ok_iff]
          simp only [Work.yields_bind, Work.yields_tables, Work.yields_carry, Work.yields_pure]
          exact ⟨allowed, ts, db, ⟨found, rfl⟩, (), db, ⟨by simp [filterFits, idFits], rfl⟩, rfl, rfl⟩
        rw [ran] at success
        cases success
      · simp only [ran, true_and]
        rw [run_ok_iff] at ran
        simp only [Work.yields_bind, Work.yields_tables, Work.yields_carry, Work.yields_pure,
          List.all_cons, List.all_nil, Bool.and_true, Bool.and_eq_true] at ran
        obtain ⟨allowed, ts, _, ⟨found, rfl⟩, _, _, ⟨⟨filterFits, idFits⟩, rfl⟩, rfl, rfl⟩ := ran
        constructor
        · intro searched
          exact ⟨allowed, ts, found, filterFits, idFits, searched⟩
        · rintro ⟨-, us, found', -, -, searched⟩
          obtain rfl := Option.some.inj (found.symm.trans found')
          exact searched

end Database

/-- On tables that have the records of a ledger the search finds out whether the ledger has
a release that the candidate repeats. -/
theorem Ledger.Faithful.firstDuplicate_priors {l : Ledger} {ts : Tables} (faithful : l.Faithful ts)
    {p : Profile} {r : Release} (answerable : p.objection? r.projection = none) :
    ∃ b, (firstDuplicate p.toSwitches r.projection (ts.priors p.toSwitches r)).map Option.isSome =
        .ok b ∧ (b = true ↔ l.Repeats p.toSwitches r) := by
  have readable : ∀ row ∈ ts.priors p.toSwitches r, ∃ prior, row.2.toRelease row.1 [] = .ok prior := by
    intro row compared
    obtain ⟨prior, -, written, -⟩ := faithful.entry (List.mem_filter.1 compared).1
    exact ⟨_, written.toRelease row.1 []⟩
  have asked : p.comparesNames = false → p.title = true := by
    intro names
    by_contra title
    exact Profile.objection?_eq_none_iff.1 answerable (.inl ⟨Bool.of_not_eq_true title, names⟩)
  obtain ⟨first, searched, hit⟩ := firstDuplicate_isSome_iff p.toSwitches r.projection readable
  exact ⟨first.isSome, by rw [searched]; rfl, hit.trans (faithful.priors_iff_repeats asked)⟩

/-- When the check comes to an answer on such tables, and to which one. -/
theorem Ledger.Faithful.isDuplicate_eq_ok_iff {l : Ledger} {ts : Tables} (faithful : l.Faithful ts)
    {db : Database} (found : db.tables = some ts) {c : Call} {p : Profile} {r : Release} {b : Bool} :
    (db.isDuplicate c p r).1 = .ok b ↔
      p.objection? r.projection = none ∧ c.check 1 = .ok () ∧ Work.fits64 r.filterId = true ∧
        Work.fits64 r.id = true ∧ (b = true ↔ l.Repeats p.toSwitches r) := by
  rw [Database.isDuplicate_ok_iff]
  constructor
  · rintro ⟨unobjected, allowed, us, found', filterFits, idFits, searched⟩
    obtain rfl := Option.some.inj (found.symm.trans found')
    obtain ⟨b', searched', hit⟩ := faithful.firstDuplicate_priors unobjected
    obtain rfl := Except.ok.inj (searched.symm.trans searched')
    exact ⟨unobjected, allowed, filterFits, idFits, hit⟩
  · rintro ⟨unobjected, allowed, filterFits, idFits, hit⟩
    obtain ⟨b', searched, hit'⟩ := faithful.firstDuplicate_priors unobjected
    obtain rfl : b' = b := Bool.eq_iff_iff.2 (hit'.trans hit.symm)
    exact ⟨unobjected, allowed, ts, found, filterFits, idFits, searched⟩

namespace Database

variable {db : Database} {c : Call} {p : Profile} {r : Release} {ts : Tables}

/-- After every run the check finds fault with its arguments exactly if it cannot be
answered, and else answers whether the ledger has a delivered release of the same filter
that the candidate repeats. -/
theorem isDuplicate_iff_repeats (run : Run) (c : Call) (p : Profile) (r : Release)
    (filterFits : Work.fits64 r.filterId = true) (idFits : Work.fits64 r.id = true) :
    ((∃ f, (run.database.isDuplicate c p r).1 = .error (.invalidArgument f)) ↔ p.Unanswerable r) ∧
      (¬p.Unanswerable r → c.check 1 = .ok () →
        ∃ b, (run.database.isDuplicate c p r).1 = .ok b ∧
          (b = true ↔ run.ledger.Repeats p.toSwitches r)) := by
  obtain ⟨ts, database, faithful⟩ := run.faithful
  have found : run.database.tables = some ts := by rw [database]
  have answers (answerable : ¬p.Unanswerable r) (allowed : c.check 1 = .ok ()) :
      ∃ b, (run.database.isDuplicate c p r).1 = .ok b ∧
        (b = true ↔ run.ledger.Repeats p.toSwitches r) := by
    have unobjected := Profile.objection?_eq_none_iff.2 answerable
    obtain ⟨b, searched, hit⟩ := faithful.firstDuplicate_priors unobjected
    exact ⟨b, isDuplicate_ok_iff.2 ⟨unobjected, allowed, ts, found, filterFits, idFits, searched⟩, hit⟩
  refine ⟨⟨?_, ?_⟩, answers⟩
  · rintro ⟨f, refused⟩
    by_contra answerable
    cases allowed : c.check 1 with
    | ok u =>
        obtain ⟨b, answer, -⟩ := answers answerable allowed
        rw [answer] at refused
        cases refused
    | error g =>
        have stopped : (run.database.isDuplicate c p r).1 = .error g := by
          simp only [isDuplicate, Profile.objection?_eq_none_iff.2 answerable, Database.run, allowed]
        rw [stopped] at refused
        rw [Except.error.inj refused] at allowed
        exact c.check_ne_invalidArgument 1 f allowed
  · intro unanswerable
    cases objected : p.objection? r.projection with
    | none => exact absurd unanswerable (Profile.objection?_eq_none_iff.1 objected)
    | some f => exact ⟨f, by simp only [isDuplicate, objected]⟩

/-- The title alone, in another case, repeats the release of the short run. -/
theorem repeats_delivery : Work.fits64 0 = true ∧
    Run.delivery.ledger.Repeats { title := true } { title := "a" } := by
  have searched := isDuplicate_iff_repeats Run.delivery .inMay
    { toSwitches := { title := true } } { title := "a" } (by decide) (by decide)
  have answerable : ¬Profile.Unanswerable { toSwitches := { title := true } } { title := "a" } := by
    rw [← Profile.objection?_eq_none_iff]
    decide +kernel
  obtain ⟨b, answer, repeated⟩ := searched.2 answerable rfl
  refine ⟨by decide, repeated.1 ?_⟩
  have positive : ((Run.delivery.database.isDuplicate .inMay { toSwitches := { title := true } }
      { title := "a" }).1.toOption = some true) := by decide +kernel
  rw [answer] at positive
  exact Option.some.inj positive

end Database

end ReleaseHistory
