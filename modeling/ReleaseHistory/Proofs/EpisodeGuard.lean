/-
# ReleaseHistory.Proofs.EpisodeGuard -- the episode guard looks through the ledger

`Database.mayDownload` counts the delivered records with the canonical title of a lookup and
with the unit that its numbers name.  The title is a column that was written when a release was
kept; whether a release is delivered is found among its statuses.

`Airing.NamesUnit` and `Airing.IsMetBy` say in numbers what a unit is and which releases deliver
it: an episode, whose season may be any number; else a season, which only a release without an
episode delivers; else the date of a show that has neither.  A lookup may name none of these.

After every run the guard answers by what the ledger has under these names
(`Database.mayDownload_iff_undelivered`).
-/
import ReleaseHistory.Proofs.Duplicates

namespace ReleaseHistory

set_option autoImplicit false

/-! ## Units in numbers -/

namespace Airing

/-- The numbers name an episode, a season, or a date. -/
def NamesUnit (a : Airing) : Prop :=
  0 < a.episode ∨ 0 < a.season ∧ a.episode = 0 ∨
    a.season = 0 ∧ a.episode = 0 ∧ 0 < a.year ∧ 0 < a.month ∧ 0 < a.day

/-- The release delivers the episode, the season, or the show of the date that the numbers
name. -/
def IsMetBy (a : Airing) (r : Release) : Prop :=
  0 < a.episode ∧ r.season = a.season ∧ r.episode = a.episode ∨
    (0 < a.season ∧ a.episode = 0) ∧ r.season = a.season ∧ r.episode = 0 ∨
    (a.season = 0 ∧ a.episode = 0 ∧ 0 < a.year ∧ 0 < a.month ∧ 0 < a.day) ∧
      r.year = a.year ∧ r.month = a.month ∧ r.day = a.day

instance (a : Airing) : Decidable a.NamesUnit :=
  inferInstanceAs (Decidable (0 < a.episode ∨ 0 < a.season ∧ a.episode = 0 ∨
    a.season = 0 ∧ a.episode = 0 ∧ 0 < a.year ∧ 0 < a.month ∧ 0 < a.day))

/-- All numbers of a lookup. -/
def numbers (a : Airing) : List Int := [a.season, a.episode, a.year, a.month, a.day]

variable {a : Airing} {u : AiringUnit}

/-- Which unit the numbers name, told apart as `NamesUnit` does. -/
theorem unit?_cases (a : Airing) :
    0 < a.episode ∧ a.unit? = some (.episode a.season a.episode) ∨
      (0 < a.season ∧ a.episode = 0) ∧ a.unit? = some (.season a.season) ∨
      (a.season = 0 ∧ a.episode = 0 ∧ 0 < a.year ∧ 0 < a.month ∧ 0 < a.day) ∧
        a.unit? = some (.daily a.year a.month a.day) ∨
      ¬a.NamesUnit ∧ a.unit? = none := by
  unfold unit? isEpisode isSeasonPack isDaily NamesUnit
  simp only [Bool.and_eq_true, beq_iff_eq, decide_eq_true_eq]
  by_cases episode : 0 < a.episode
  · exact .inl ⟨episode, if_pos episode⟩
  · rw [if_neg episode]
    by_cases season : 0 < a.season ∧ a.episode = 0
    · exact .inr (.inl ⟨season, if_pos season⟩)
    · rw [if_neg season]
      by_cases daily : (((a.season = 0 ∧ a.episode = 0) ∧ 0 < a.year) ∧ 0 < a.month) ∧ 0 < a.day
      · rw [if_pos daily]
        simp only [and_assoc] at daily
        exact .inr (.inr (.inl ⟨daily, rfl⟩))
      · rw [if_neg daily]
        simp only [and_assoc] at daily
        exact .inr (.inr (.inr ⟨by tauto, rfl⟩))

theorem unit?_eq_none_iff : a.unit? = none ↔ ¬a.NamesUnit := by
  rcases a.unit?_cases with ⟨episode, named⟩ | ⟨season, named⟩ | ⟨daily, named⟩ | ⟨nothing, named⟩
  · simp [named, NamesUnit, episode]
  · simp [named, NamesUnit, season]
  · simp [named, NamesUnit, daily]
  · simp [named, nothing]

/-- A record covers the unit exactly if its release delivers it. -/
theorem covers_iff_isMetBy {r : Release} {row : StoredRelease} (named : a.unit? = some u)
    (written : r.KeptAs row) : u.covers row = true ↔ a.IsMetBy r := by
  unfold IsMetBy
  rcases a.unit?_cases with ⟨episode, named'⟩ | ⟨season, named'⟩ | ⟨daily, named'⟩ | ⟨-, nothing⟩
  · obtain rfl := Option.some.inj (named.symm.trans named')
    simp only [AiringUnit.covers, written.announcement, Bool.and_eq_true, beq_iff_eq]
    omega
  · obtain rfl := Option.some.inj (named.symm.trans named')
    simp only [AiringUnit.covers, written.announcement, Bool.and_eq_true, beq_iff_eq]
    omega
  · obtain rfl := Option.some.inj (named.symm.trans named')
    simp only [AiringUnit.covers, written.announcement, Bool.and_eq_true, beq_iff_eq]
    omega
  · rw [nothing] at named
    cases named

/-- The numbers of a unit are among those that name it. -/
theorem fits64_of_unit? (named : a.unit? = some u) (fit : a.numbers.all Work.fits64 = true) :
    u.numbers.all Work.fits64 = true := by
  simp only [numbers, List.all_cons, List.all_nil, Bool.and_true, Bool.and_eq_true] at fit
  obtain ⟨season, episode, year, month, day⟩ := fit
  rcases a.unit?_cases with ⟨-, named'⟩ | ⟨-, named'⟩ | ⟨-, named'⟩ | ⟨-, nothing⟩
  · obtain rfl := Option.some.inj (named.symm.trans named')
    simp [AiringUnit.numbers, season, episode]
  · obtain rfl := Option.some.inj (named.symm.trans named')
    simp [AiringUnit.numbers, season]
  · obtain rfl := Option.some.inj (named.symm.trans named')
    simp [AiringUnit.numbers, year, month, day]
  · rw [nothing] at named
    cases named

end Airing

/-! ## The guard on the ledger -/

/-- A delivered release has the canonical title, and delivers the unit that the numbers name. -/
def Ledger.Delivers (l : Ledger) (title : String) (a : Airing) : Prop :=
  ∃ id r, l.release? id = some r ∧ l.Delivered id ∧ r.projection.title = title ∧ a.IsMetBy r

/-- The deliveries of a unit that are counted are those of the ledger. -/
theorem Ledger.Faithful.deliveries_eq_zero_iff {l : Ledger} {ts : Tables} (faithful : l.Faithful ts)
    {a : Airing} {u : AiringUnit} (named : a.unit? = some u) {title : String} :
    ts.deliveries title u = 0 ↔ ¬l.Delivers title a := by
  rw [Tables.deliveries, List.countP_eq_zero]
  simp only [Bool.and_eq_true, beq_iff_eq]
  constructor
  · rintro none ⟨id, r, entered, delivered, titled, met⟩
    obtain ⟨row, held, written, -⟩ := faithful.record entered
    refine none (id, row) held ⟨⟨?_, faithful.isDelivered_iff.2 delivered⟩, ?_⟩
    · rw [written.normalizedTitle, titled]
    · exact (Airing.covers_iff_isMetBy named written).2 met
  · rintro undelivered ⟨id, row⟩ held ⟨⟨titled, delivered⟩, covered⟩
    obtain ⟨r, entered, written, -⟩ := faithful.entry held
    refine undelivered ⟨id, r, entered, faithful.isDelivered_iff.1 delivered, ?_, ?_⟩
    · rw [← written.normalizedTitle, titled]
    · exact (Airing.covers_iff_isMetBy named written).1 covered

namespace Database

variable {db : Database} {c : Call} {a : Airing} {again : Bool}

theorem mayDownload_untitled (untitled : Text.canonical (Edition.titleText a.title) = "") :
    db.mayDownload c a again = (.error (.invalidArgument .lookupWithoutTitle), db) := by
  simp only [mayDownload, if_pos untitled]

theorem mayDownload_of_unit?_eq_none (titled : Text.canonical (Edition.titleText a.title) ≠ "")
    (none : a.unit? = none) : db.mayDownload c a again = (.ok false, db) := by
  simp only [mayDownload, if_neg titled, none]

theorem mayDownload_of_unit? {u : AiringUnit} (titled : Text.canonical (Edition.titleText a.title) ≠ "")
    (named : a.unit? = some u) :
    db.mayDownload c a again = db.run c 1 (do
      let ts ← Work.tables .release
      Work.carry u.numbers
      return ts.deliveries (Text.canonical (Edition.titleText a.title)) u == 0 || again) := by
  simp only [mayDownload, if_neg titled, named]

/-- With a title and a unit, the guard comes to an answer by the count of the deliveries. -/
theorem mayDownload_ok_iff {u : AiringUnit} {b : Bool}
    (titled : Text.canonical (Edition.titleText a.title) ≠ "") (named : a.unit? = some u) :
    (db.mayDownload c a again).1 = .ok b ↔
      c.check 1 = .ok () ∧ ∃ ts, db.tables = some ts ∧ u.numbers.all Work.fits64 = true ∧
        (ts.deliveries (Text.canonical (Edition.titleText a.title)) u == 0 || again) = b := by
  rw [mayDownload_of_unit? titled named, fst_run_ok_iff]
  simp only [Work.yields_bind, Work.yields_tables, Work.yields_carry, Work.yields_pure]
  refine and_congr_right fun _ => ?_
  constructor
  · rintro ⟨_, ts, _, ⟨found, rfl⟩, _, _, ⟨fit, rfl⟩, counted, -⟩
    exact ⟨ts, found, fit, counted⟩
  · rintro ⟨ts, found, fit, counted⟩
    exact ⟨db, ts, db, ⟨found, rfl⟩, (), db, ⟨fit, rfl⟩, counted, rfl⟩

/-- Only a title is asked of a lookup. -/
theorem mayDownload_invalidArgument_iff :
    (∃ f, (db.mayDownload c a again).1 = .error (.invalidArgument f)) ↔
      Text.canonical (Edition.titleText a.title) = "" := by
  constructor
  · rintro ⟨f, refused⟩
    by_contra titled
    cases named : a.unit? with
    | none =>
        rw [mayDownload_of_unit?_eq_none titled named] at refused
        cases refused
    | some u =>
        rw [mayDownload_of_unit? titled named, run_error_iff] at refused
        rcases refused with refused | ⟨-, failed⟩
        · exact c.check_ne_invalidArgument 1 f refused
        · simp only [Work.fails_bind, Work.fails_tables, Work.fails_carry, Work.not_fails_pure,
            reduceCtorEq, and_false, exists_false, false_or] at failed
  · intro untitled
    exact ⟨_, congrArg Prod.fst (mayDownload_untitled untitled)⟩

/-- The guard finds fault with a lookup exactly if its title folds to nothing.  Else it never
allows a download that names no unit.  Where a unit is named it answers, after every run, that
the unit may be downloaded exactly if it may be again, or no release that is held was delivered
with the title and the unit. -/
theorem mayDownload_iff_undelivered (a : Airing) (again : Bool) :
    let title := Text.canonical (Edition.titleText a.title)
    (∀ (db : Database) (c : Call),
      (∃ f, (db.mayDownload c a again).1 = .error (.invalidArgument f)) ↔ title = "") ∧
      (title ≠ "" →
        (¬a.NamesUnit → ∀ (db : Database) (c : Call), (db.mayDownload c a again).1 = .ok false) ∧
        (a.NamesUnit → a.numbers.all Work.fits64 = true →
          ∀ (run : Run) (locked : Bool) (c : Call), c.check 1 = .ok () →
            ∃ b, (({ run.database with locked } : Database).mayDownload c a again).1 = .ok b ∧
              (b = true ↔ again = true ∨ ¬run.ledger.Delivers title a))) := by
  intro title
  refine ⟨fun db c => mayDownload_invalidArgument_iff, fun titled => ⟨?_, ?_⟩⟩
  · intro unnamed db c
    rw [mayDownload_of_unit?_eq_none titled (Airing.unit?_eq_none_iff.2 unnamed)]
  · intro names fit run locked c allowed
    obtain ⟨u, named⟩ : ∃ u, a.unit? = some u := by
      rw [← Option.isSome_iff_exists, Option.isSome_iff_ne_none, Ne, Airing.unit?_eq_none_iff]
      exact not_not_intro names
    obtain ⟨ts, database, faithful⟩ := run.faithful
    have found : ({ run.database with locked } : Database).tables = some ts :=
      congrArg Database.tables database
    refine ⟨ts.deliveries title u == 0 || again, ?_, ?_⟩
    · exact (mayDownload_ok_iff titled named).2
        ⟨allowed, ts, found, Airing.fits64_of_unit? named fit, rfl⟩
    · rw [Bool.or_eq_true, beq_iff_eq, faithful.deliveries_eq_zero_iff named, or_comm]

end Database

/-! ## A season with one delivery -/

/-- An episode is delivered under a title with an edition marker; the pack of its season is kept
and not delivered. -/
def Run.oneEpisode : Run :=
  [{ operation := .store { title := "a", season := 1 }, call := .inMay },
    { operation := .storeStatus { releaseId := 1 }, call := .inMay },
    { operation := .store { title := "A PROPER", season := 1, episode := 2 }, call := .inMay }]

namespace Database

/-- The episode may not be downloaded again, the pack of its season may. -/
theorem mayDownload_oneEpisode :
    let episode : Airing := { title := "A", season := 1, episode := 2 }
    let pack : Airing := { title := "A", season := 1 }
    Run.oneEpisode.ledger.Delivers "a" episode ∧ ¬Run.oneEpisode.ledger.Delivers "a" pack ∧
      (Run.oneEpisode.database.mayDownload .inMay { title := "A", season := -1 } true).1 =
        .ok false := by
  intro episode pack
  have title : Text.canonical (Edition.titleText "A") = "a" := by decide +kernel
  have answered (a : Airing) (titled : a.title = "A") (names : a.NamesUnit)
      (fit : a.numbers.all Work.fits64 = true) :
      ∃ b, (Run.oneEpisode.database.mayDownload .inMay a false).1 = .ok b ∧
        (b = true ↔ ¬Run.oneEpisode.ledger.Delivers "a" a) := by
    have folded : Text.canonical (Edition.titleText a.title) = "a" := by rw [titled, title]
    have stated := (mayDownload_iff_undelivered a false).2
    rw [folded] at stated
    obtain ⟨b, answer, means⟩ := (stated (by decide)).2 names fit Run.oneEpisode false .inMay rfl
    exact ⟨b, answer, by simpa using means⟩
  refine ⟨?_, ?_, ?_⟩
  · obtain ⟨b, answer, means⟩ := answered episode rfl (by decide) (by decide)
    have refused : (Run.oneEpisode.database.mayDownload .inMay episode false).1 = .ok false := by
      decide +kernel
    rw [refused] at answer
    obtain rfl := Except.ok.inj answer
    simpa using means
  · obtain ⟨b, answer, means⟩ := answered pack rfl (by decide) (by decide)
    have allowed : (Run.oneEpisode.database.mayDownload .inMay pack false).1 = .ok true := by
      decide +kernel
    rw [allowed] at answer
    obtain rfl := Except.ok.inj answer
    exact means.1 rfl
  · have stated := (mayDownload_iff_undelivered { title := "A", season := -1 } true).2
    exact (stated (by decide +kernel)).1 (by decide) _ _

end Database

end ReleaseHistory
