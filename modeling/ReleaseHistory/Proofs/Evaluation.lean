/-
# ReleaseHistory.Proofs.Evaluation -- a release is accepted if it passes every check

An evaluation makes the checks that are asked for one after the other, up to the first that
fails.  `Checks.Finds` tells which rejections they come to by what the history answers to each of
them; a fault of the history itself is a rejection, too.

Any other fault leaves the release without a verdict.  `Checks.BreaksOff` tells from the history
and the release when that happens: a number that is looked up does not fit in 64 bits, or the
duplicate check comes to a record that was spoilt.

* Whatever the history, there is a verdict exactly if the checks do not break off, and a check
  that fails is a rejection (`Database.evaluate_settles_iff`).
* On a history that was only ever changed by its own operations, and on one without tables, the
  checks of a release whose numbers fit never break off, and the verdict is what they find
  (`Database.evaluate_verdict`).
-/
import ReleaseHistory.Evaluation
import ReleaseHistory.Proofs.EpisodeGuard

namespace ReleaseHistory

set_option autoImplicit false

attribute [local irreducible] Edition.titleText Edition.stripText Edition.announcedBy

/-! ## Records that cannot be read -/

theorem code?_of_readLabel {α : Type} {kind : LabelKind} {ofName? : String → Option α} {name : String}
    {f : Fault} (spoilt : readLabel kind ofName? name = .error f) : f.code? = none := by
  unfold readLabel at spoilt
  split at spoilt
  · cases spoilt
  · rw [← Except.error.inj spoilt]
    rfl

theorem code?_of_readTexts {column : String} {f : Fault} (spoilt : readTexts column = .error f) :
    f.code? = none := by
  obtain ⟨flaw, -, rfl⟩ := mapError_eq_error_iff.1 spoilt
  cases flaw <;> rfl

/-- A record that cannot be read is no fault of the history itself. -/
theorem StoredRelease.code?_of_toRelease {row : StoredRelease} {id : Int} {statuses : List ActionStatus}
    {f : Fault} (spoilt : row.toRelease id statuses = .error f) : f.code? = none := by
  simp only [StoredRelease.toRelease, bind_eq_error_iff] at spoilt
  obtain label | ⟨_, -, texts | ⟨_, -, label | ⟨_, -, label | ⟨_, -, texts | ⟨_, -, texts | ⟨_, -, texts |
    ⟨_, -, texts | ⟨_, -, impossible⟩⟩⟩⟩⟩⟩⟩⟩ := spoilt
  · exact code?_of_readLabel label
  · exact code?_of_readTexts texts
  · exact code?_of_readLabel label
  · exact code?_of_readLabel label
  · exact code?_of_readTexts texts
  · exact code?_of_readTexts texts
  · exact code?_of_readTexts texts
  · exact code?_of_readTexts texts
  · cases impossible

/-- The search comes to a record that cannot be read: the candidate repeats none of those before
it. -/
def Switches.StumblesIn (s : Switches) (candidate : Projection) (rows : List (Int × StoredRelease))
    (f : Fault) : Prop :=
  ∃ before row after, rows = before ++ row :: after ∧
    (∀ seen ∈ before, ∃ prior, seen.2.toRelease seen.1 [] = .ok prior ∧
      s.sameRelease candidate prior.projection = false) ∧
    row.2.toRelease row.1 [] = .error f

theorem firstDuplicate_eq_error_iff {s : Switches} {candidate : Projection}
    {rows : List (Int × StoredRelease)} {f : Fault} :
    firstDuplicate s candidate rows = .error f ↔ s.StumblesIn candidate rows f := by
  induction rows with
  | nil =>
      refine iff_of_false nofun ?_
      rintro ⟨before, row, after, split, -⟩
      cases before <;> cases split
  | cons record rows ih =>
      obtain ⟨id, row⟩ := record
      rw [firstDuplicate, bind_eq_error_iff]
      constructor
      · rintro (spoilt | ⟨prior, read, rest⟩)
        · exact ⟨[], (id, row), rows, rfl, by simp, spoilt⟩
        · split at rest
          · cases rest
          · rename_i differs
            obtain ⟨before, spoilt, after, rfl, seen, unread⟩ := ih.1 rest
            refine ⟨(id, row) :: before, spoilt, after, rfl, ?_, unread⟩
            exact List.forall_mem_cons.2 ⟨⟨prior, read, Bool.eq_false_iff.2 differs⟩, seen⟩
      · rintro ⟨before, spoilt, after, split, seen, unread⟩
        cases before with
        | nil =>
            obtain ⟨rfl, rfl⟩ := List.cons.inj split
            exact .inl unread
        | cons first before =>
            obtain ⟨rfl, rfl⟩ := List.cons.inj split
            obtain ⟨⟨prior, read, differs⟩, seen⟩ := List.forall_mem_cons.1 seen
            refine .inr ⟨prior, read, ?_⟩
            rw [differs, if_neg Bool.false_ne_true]
            exact ih.2 ⟨before, spoilt, after, rfl, seen, unread⟩

/-! ## Where a check fails -/

/-- A call without limits passes every check. -/
theorem Call.check_unlimited (clock : DateTime) (n : Nat) : ({ clock } : Call).check n = .ok () := rfl

namespace Database

variable {db : Database} {c : Call} {f : Fault}

/-- A profile that can be asked is answered by a search of the records that are compared. -/
theorem isDuplicate_fst {p : Profile} {r : Release} (unobjected : p.objection? r.projection = none) :
    (db.isDuplicate c p r).1 =
      ((db.run c 1 do
        let ts ← Work.tables .release
        Work.carry [r.filterId, r.id]
        return ts.priors p.toSwitches r).1 >>= fun rows =>
          (firstDuplicate p.toSwitches r.projection rows).map Option.isSome) := by
  simp only [isDuplicate, unobjected]
  cases db.run c 1 (do
    let ts ← Work.tables .release
    Work.carry [r.filterId, r.id]
    return ts.priors p.toSwitches r) with
  | mk outcome after => cases outcome <;> rfl

/-- Why the duplicate check fails while its call may go on. -/
theorem isDuplicate_eq_error_iff {p : Profile} {r : Release} (allowed : c.check 1 = .ok ()) :
    (db.isDuplicate c p r).1 = .error f ↔
      (∃ a, p.objection? r.projection = some a ∧ .invalidArgument a = f) ∨
        p.objection? r.projection = none ∧
          (db.tables = none ∧ .unavailable (.missingTable .release) = f ∨
            ∃ ts, db.tables = some ts ∧
              ([r.filterId, r.id].all Work.fits64 = false ∧ .overflow = f ∨
                [r.filterId, r.id].all Work.fits64 = true ∧
                  p.toSwitches.StumblesIn r.projection (ts.priors p.toSwitches r) f)) := by
  cases objected : p.objection? r.projection with
  | some a => simp [isDuplicate, objected]
  | none =>
      rw [isDuplicate_fst objected, bind_eq_error_iff]
      simp only [run_error_iff, fst_run_ok_iff, allowed, reduceCtorEq, false_and, exists_false, true_and,
        false_or, map_eq_error_iff, firstDuplicate_eq_error_iff, Work.fails_bind, Work.fails_tables,
        Work.fails_carry, Work.not_fails_pure, Work.yields_bind, Work.yields_tables, Work.yields_carry,
        Work.yields_pure, and_false, or_false]
      constructor
      · rintro ((missing | ⟨ts, _, ⟨found, rfl⟩, large⟩) |
          ⟨_, ⟨_, ts, _, ⟨found, rfl⟩, _, _, ⟨fit, rfl⟩, rfl, -⟩, stumbles⟩)
        · exact .inl missing
        · exact .inr ⟨ts, found, .inl large⟩
        · exact .inr ⟨ts, found, .inr ⟨fit, stumbles⟩⟩
      · rintro (missing | ⟨ts, found, large | ⟨fit, stumbles⟩⟩)
        · exact .inl (.inl missing)
        · exact .inl (.inr ⟨ts, db, ⟨found, rfl⟩, large⟩)
        · exact .inr ⟨_, ⟨db, ts, db, ⟨found, rfl⟩, (), db, ⟨fit, rfl⟩, rfl, rfl⟩, stumbles⟩

/-- Why the episode guard fails while its call may go on. -/
theorem mayDownload_eq_error_iff {a : Airing} {again : Bool} (allowed : c.check 1 = .ok ()) :
    (db.mayDownload c a again).1 = .error f ↔
      Text.canonical (Edition.titleText a.title) = "" ∧ .invalidArgument .lookupWithoutTitle = f ∨
        Text.canonical (Edition.titleText a.title) ≠ "" ∧ ∃ u, a.unit? = some u ∧
          (db.tables = none ∧ .unavailable (.missingTable .release) = f ∨
            ∃ ts, db.tables = some ts ∧ u.numbers.all Work.fits64 = false ∧ .overflow = f) := by
  by_cases untitled : Text.canonical (Edition.titleText a.title) = ""
  · simp [mayDownload_untitled untitled, untitled]
  · cases named : a.unit? with
    | none => simp [mayDownload_of_unit?_eq_none untitled named, untitled]
    | some u =>
        simp only [mayDownload_of_unit? untitled named, run_error_iff, allowed, reduceCtorEq, true_and,
          false_or, Work.fails_bind, Work.fails_tables, Work.fails_carry, Work.not_fails_pure,
          Work.yields_tables, and_false, exists_false, or_false, untitled, false_and, ne_eq,
          not_false_eq_true, Option.some.injEq, exists_eq_left']
        constructor
        · rintro (missing | ⟨ts, _, ⟨found, rfl⟩, large⟩)
          · exact .inl missing
          · exact .inr ⟨ts, found, large⟩
        · rintro (missing | ⟨ts, found, large⟩)
          · exact .inl missing
          · exact .inr ⟨ts, db, ⟨found, rfl⟩, large⟩

end Database

/-! ## What the checks come to -/

namespace Checks

/-- The duplicate check answers whether the release repeats another; without a profile it is
passed. -/
def Detects (k : Checks) (db : Database) (c : Call) (r : Release) (duplicate : Bool) : Prop :=
  match k.profile with
  | none => duplicate = false
  | some p => (db.isDuplicate c p r).1 = .ok duplicate

/-- The duplicate check is asked for and fails. -/
def DetectionFails (k : Checks) (db : Database) (c : Call) (r : Release) (f : Fault) : Prop :=
  ∃ p, k.profile = some p ∧ (db.isDuplicate c p r).1 = .error f

/-- The episode guard answers whether the release may be downloaded; where it is not asked for it
is passed. -/
def Allows (k : Checks) (db : Database) (c : Call) (r : Release) (allowed : Bool) : Prop :=
  if k.smartEpisode then (db.mayDownload c r.airing k.allowReacquire).1 = .ok allowed
  else allowed = true

/-- The episode guard is asked for and fails. -/
def GuardFails (k : Checks) (db : Database) (c : Call) (r : Release) (f : Fault) : Prop :=
  k.smartEpisode = true ∧ (db.mayDownload c r.airing k.allowReacquire).1 = .error f

/-- The rejections that the checks come to.  The first check that fails with a fault of the
history itself ends them with its code; what was found before stays. -/
inductive Finds (k : Checks) (db : Database) (c : Call) (r : Release) : List Rejection → Prop where
  | detectionFailed {f : Fault} {code : String} (failed : k.DetectionFails db c r f)
      (coded : f.code? = some code) : Finds k db c r [.checkFailed code]
  | guardFailed {duplicate : Bool} {f : Fault} {code : String} (detected : k.Detects db c r duplicate)
      (failed : k.GuardFails db c r f) (coded : f.code? = some code) :
      Finds k db c r ((if duplicate then [.duplicate] else []) ++ [.checkFailed code])
  | completed {duplicate allowed : Bool} (detected : k.Detects db c r duplicate)
      (answered : k.Allows db c r allowed) :
      Finds k db c r
        ((if duplicate then [.duplicate] else []) ++ if allowed then [] else [.episodeDelivered])

/-- The fault, none of the history itself, that the checks end in. -/
inductive EndsIn (k : Checks) (db : Database) (c : Call) (r : Release) : Fault → Prop where
  | detection {f : Fault} (failed : k.DetectionFails db c r f) (uncoded : f.code? = none) :
      EndsIn k db c r f
  | guard {duplicate : Bool} {f : Fault} (detected : k.Detects db c r duplicate)
      (failed : k.GuardFails db c r f) (uncoded : f.code? = none) : EndsIn k db c r f

variable {k : Checks} {db : Database} {c : Call} {r : Release} {found : List Rejection} {f : Fault}
  {a b : Bool}

theorem detects_of_profile {p : Profile} (used : k.profile = some p) :
    k.Detects db c r a ↔ (db.isDuplicate c p r).1 = .ok a := by
  rw [Detects, used]

theorem allows_of_smart (smart : k.smartEpisode = true) :
    k.Allows db c r a ↔ (db.mayDownload c r.airing k.allowReacquire).1 = .ok a := by
  rw [Allows, if_pos smart]

theorem allows_of_not_smart (plain : k.smartEpisode = false) : k.Allows db c r a ↔ a = true := by
  rw [Allows, plain, if_neg Bool.false_ne_true]

/-- Each check answers or fails, if it is asked for. -/
theorem detects_or_fails (k : Checks) (db : Database) (c : Call) (r : Release) :
    (∃ duplicate, k.Detects db c r duplicate) ∨ ∃ f, k.DetectionFails db c r f := by
  unfold Detects DetectionFails
  cases k.profile with
  | none => exact .inl ⟨false, rfl⟩
  | some p =>
      cases answer : (db.isDuplicate c p r).1 with
      | ok b => exact .inl ⟨b, answer⟩
      | error f => exact .inr ⟨f, p, rfl, answer⟩

theorem allows_or_fails (k : Checks) (db : Database) (c : Call) (r : Release) :
    (∃ allowed, k.Allows db c r allowed) ∨ ∃ f, k.GuardFails db c r f := by
  cases smart : k.smartEpisode with
  | false => exact .inl ⟨true, (allows_of_not_smart smart).2 rfl⟩
  | true =>
      cases answer : (db.mayDownload c r.airing k.allowReacquire).1 with
      | ok b => exact .inl ⟨b, (allows_of_smart smart).2 answer⟩
      | error f => exact .inr ⟨f, smart, answer⟩

/-- The checks come to rejections or end in another fault. -/
theorem finds_or_endsIn (k : Checks) (db : Database) (c : Call) (r : Release) :
    (∃ found, k.Finds db c r found) ∨ ∃ f, k.EndsIn db c r f := by
  rcases k.detects_or_fails db c r with ⟨duplicate, detected⟩ | ⟨f, failed⟩
  · rcases k.allows_or_fails db c r with ⟨allowed, answered⟩ | ⟨f, failed⟩
    · exact .inl ⟨_, .completed detected answered⟩
    · cases coded : f.code? with
      | some code => exact .inl ⟨_, .guardFailed detected failed coded⟩
      | none => exact .inr ⟨f, .guard detected failed coded⟩
  · cases coded : f.code? with
    | some code => exact .inl ⟨_, .detectionFailed failed coded⟩
    | none => exact .inr ⟨f, .detection failed coded⟩

theorem Detects.unique (one : k.Detects db c r a) (other : k.Detects db c r b) : a = b := by
  unfold Detects at one other
  split at one <;> rename_i used
  · rw [used] at other
    exact one.trans other.symm
  · rw [used] at other
    exact Except.ok.inj (one.symm.trans other)

theorem Allows.unique (one : k.Allows db c r a) (other : k.Allows db c r b) : a = b := by
  cases smart : k.smartEpisode with
  | false =>
      rw [allows_of_not_smart smart] at one other
      exact one.trans other.symm
  | true =>
      rw [allows_of_smart smart] at one other
      exact Except.ok.inj (one.symm.trans other)

theorem DetectionFails.not_detects (failed : k.DetectionFails db c r f) : ¬k.Detects db c r a := by
  obtain ⟨p, used, refused⟩ := failed
  unfold Detects
  rw [used]
  exact fun answered => nomatch refused.symm.trans answered

theorem GuardFails.not_allows (failed : k.GuardFails db c r f) : ¬k.Allows db c r a := by
  rw [allows_of_smart failed.1]
  exact fun answered => nomatch failed.2.symm.trans answered

/-- No rejection is found exactly if every check that is asked for was completed and is passed. -/
theorem Finds.eq_nil_iff (finds : k.Finds db c r found) :
    found = [] ↔ k.Detects db c r false ∧ k.Allows db c r true := by
  cases finds with
  | detectionFailed failed => exact iff_of_false nofun fun passed => failed.not_detects passed.1
  | guardFailed _ failed =>
      refine iff_of_false (fun none => ?_) fun passed => failed.not_allows passed.2
      exact List.cons_ne_nil _ _ (List.append_eq_nil_iff.1 none).2
  | @completed duplicate allowed detected answered =>
      constructor
      · intro none
        cases duplicate with
        | true => cases none
        | false =>
            cases allowed with
            | true => exact ⟨detected, answered⟩
            | false => cases none
      · rintro ⟨unrepeated, free⟩
        obtain rfl := detected.unique unrepeated
        obtain rfl := answered.unique free
        rfl

end Checks

namespace Database

variable {db : Database} {c : Call} {k : Checks} {r : Release} {f : Fault}

theorem duplicateRejections_snd : (db.duplicateRejections c k r).2 = db := by
  unfold duplicateRejections
  split
  · rfl
  · exact isDuplicate_snd _ r

theorem episodeRejections_snd : (db.episodeRejections c k r).2 = db := by
  have same : (db.mayDownload c r.airing k.allowReacquire).2 = db := mayDownload_snd _ _
  unfold episodeRejections
  split
  · generalize db.mayDownload c r.airing k.allowReacquire = answer at same ⊢
    exact same
  · rfl

theorem duplicateRejections_of_detects {duplicate : Bool} (detected : k.Detects db c r duplicate) :
    db.duplicateRejections c k r = (.ok (if duplicate then [.duplicate] else []), db) := by
  refine Prod.ext ?_ duplicateRejections_snd
  unfold Checks.Detects at detected
  unfold duplicateRejections
  cases used : k.profile with
  | none =>
      simp only [used] at detected
      rw [detected]
      rfl
  | some p =>
      simp only [used] at detected
      simp only [detected]
      rfl

theorem duplicateRejections_of_fails (failed : k.DetectionFails db c r f) :
    db.duplicateRejections c k r = (.error f, db) := by
  refine Prod.ext ?_ duplicateRejections_snd
  obtain ⟨p, used, refused⟩ := failed
  simp only [duplicateRejections, used, refused]
  rfl

theorem episodeRejections_of_allows {allowed : Bool} (answered : k.Allows db c r allowed) :
    db.episodeRejections c k r = (.ok (if allowed then [] else [.episodeDelivered]), db) := by
  refine Prod.ext ?_ episodeRejections_snd
  unfold Checks.Allows at answered
  unfold episodeRejections
  cases smart : k.smartEpisode with
  | false =>
      rw [smart, if_neg Bool.false_ne_true] at answered
      rw [answered]
      rfl
  | true =>
      rw [smart, if_pos rfl] at answered
      simp only [answered]
      rfl

theorem episodeRejections_of_fails (failed : k.GuardFails db c r f) :
    db.episodeRejections c k r = (.error f, db) := by
  refine Prod.ext ?_ episodeRejections_snd
  obtain ⟨smart, refused⟩ := failed
  simp only [episodeRejections, smart, refused]
  rfl

variable {clock : DateTime}

/-- Whatever rejections the checks find are the verdict on the release. -/
theorem evaluate_of_finds {found : List Rejection} (finds : k.Finds db { clock } r.normalize found) :
    db.evaluate clock k r = db.conclude r.normalize found := by
  cases finds with
  | detectionFailed failed coded =>
      simp only [evaluate, rejections, duplicateRejections_of_fails failed, coded, List.nil_append]
  | guardFailed detected failed coded =>
      simp only [evaluate, rejections, duplicateRejections_of_detects detected,
        episodeRejections_of_fails failed, coded]
  | completed detected answered =>
      simp only [evaluate, rejections, duplicateRejections_of_detects detected,
        episodeRejections_of_allows answered]

/-- Another fault leaves the normalized release without a verdict. -/
theorem evaluate_of_endsIn (ends : k.EndsIn db { clock } r.normalize f) :
    db.evaluate clock k r = ⟨.error f, r.normalize, db⟩ := by
  cases ends with
  | detection failed uncoded =>
      simp only [evaluate, rejections, duplicateRejections_of_fails failed, uncoded]
  | guard detected failed uncoded =>
      simp only [evaluate, rejections, duplicateRejections_of_detects detected,
        episodeRejections_of_fails failed, uncoded]

/-- An evaluation comes to a verdict by the rejections that its checks find, or the checks end in a
fault. -/
theorem evaluate_cases (db : Database) (clock : DateTime) (k : Checks) (r : Release) :
    (∃ found, k.Finds db { clock } r.normalize found ∧
      db.evaluate clock k r = db.conclude r.normalize found) ∨
    ∃ f, k.EndsIn db { clock } r.normalize f ∧
      db.evaluate clock k r = ⟨.error f, r.normalize, db⟩ := by
  rcases k.finds_or_endsIn db { clock } r.normalize with ⟨found, finds⟩ | ⟨f, ends⟩
  · exact .inl ⟨found, finds, evaluate_of_finds finds⟩
  · exact .inr ⟨f, ends, evaluate_of_endsIn ends⟩

/-- An evaluation leaves the database as it is. -/
theorem evaluate_database (db : Database) (clock : DateTime) (k : Checks) (r : Release) :
    (db.evaluate clock k r).database = db := by
  rcases db.evaluate_cases clock k r with ⟨found, -, evaluated⟩ | ⟨f, -, evaluated⟩
  · rw [evaluated]
    rfl
  · rw [evaluated]

/-- A release that is accepted passed every check that is asked for, and is marked. -/
theorem of_accepted {v : Verdict} (given : (db.evaluate clock k r).outcome = .ok v)
    (accepted : v.accepted = true) :
    (db.evaluate clock k r).release = { r.normalize with filterStatus := .approved } ∧
      k.Detects db { clock } r.normalize false ∧ k.Allows db { clock } r.normalize true := by
  rcases db.evaluate_cases clock k r with ⟨found, finds, evaluated⟩ | ⟨f, -, evaluated⟩
  · rw [evaluated] at given ⊢
    obtain rfl := Except.ok.inj given
    have none : found = [] := by simpa using accepted
    refine ⟨?_, finds.eq_nil_iff.1 none⟩
    rw [none]
    rfl
  · rw [evaluated] at given
    cases given

end Database

/-! ## Where the checks break off -/

/-- The profile can be asked, but a number that is looked up does not fit in 64 bits, or the search
comes to a record that cannot be read. -/
def Profile.BreaksOff (p : Profile) (ts : Tables) (r : Release) : Prop :=
  p.objection? r.projection = none ∧
    ([r.filterId, r.id].all Work.fits64 = false ∨
      ∃ f, p.toSwitches.StumblesIn r.projection (ts.priors p.toSwitches r) f)

/-- The lookup has a title and names a unit, but one of its numbers does not fit in 64 bits. -/
def Airing.BreaksOff (a : Airing) : Prop :=
  Text.canonical (Edition.titleText a.title) ≠ "" ∧
    ∃ u, a.unit? = some u ∧ u.numbers.all Work.fits64 = false

/-- One of the checks breaks off; the episode guard is not reached where the profile cannot be
asked.  Without tables no check does. -/
def Checks.BreaksOff (k : Checks) (db : Database) (r : Release) : Prop :=
  ∃ ts, db.tables = some ts ∧
    ((∃ p, k.profile = some p ∧ p.BreaksOff ts r) ∨
      (∀ p, k.profile = some p → p.objection? r.projection = none) ∧ k.smartEpisode = true ∧
        r.airing.BreaksOff)

namespace Checks

variable {k : Checks} {db : Database} {c : Call} {r : Release} {p : Profile} {f : Fault}

/-- The duplicate check ends in a fault that is none of the history itself where it breaks off. -/
theorem uncoded_isDuplicate_iff (allowed : c.check 1 = .ok ()) :
    (∃ f, (db.isDuplicate c p r).1 = .error f ∧ f.code? = none) ↔
      ∃ ts, db.tables = some ts ∧ p.BreaksOff ts r := by
  simp only [Database.isDuplicate_eq_error_iff allowed]
  constructor
  · rintro ⟨f, ⟨a, -, rfl⟩ | ⟨unobjected, ⟨-, rfl⟩ | ⟨ts, found, ⟨large, rfl⟩ | ⟨-, stumbles⟩⟩⟩, uncoded⟩
    · cases uncoded
    · cases uncoded
    · exact ⟨ts, found, unobjected, .inl large⟩
    · exact ⟨ts, found, unobjected, .inr ⟨f, stumbles⟩⟩
  · rintro ⟨ts, found, unobjected, broken⟩
    cases fit : [r.filterId, r.id].all Work.fits64 with
    | false => exact ⟨.overflow, .inr ⟨unobjected, .inr ⟨ts, found, .inl ⟨rfl, rfl⟩⟩⟩, rfl⟩
    | true =>
        obtain ⟨f, stumbles⟩ := broken.resolve_left (by simp [fit])
        obtain ⟨-, row, -, -, -, spoilt⟩ := id stumbles
        exact ⟨f, .inr ⟨unobjected, .inr ⟨ts, found, .inr ⟨rfl, stumbles⟩⟩⟩,
          StoredRelease.code?_of_toRelease spoilt⟩

/-- With tables, a profile that can be asked fails with no fault of the history itself. -/
theorem uncoded_of_isDuplicate {ts : Tables} (allowed : c.check 1 = .ok ()) (found : db.tables = some ts)
    (unobjected : p.objection? r.projection = none) (refused : (db.isDuplicate c p r).1 = .error f) :
    f.code? = none := by
  rcases (Database.isDuplicate_eq_error_iff allowed).1 refused with
    ⟨a, objected, -⟩ | ⟨-, ⟨missing, -⟩ | ⟨us, -, ⟨-, rfl⟩ | ⟨-, -, row, -, -, -, spoilt⟩⟩⟩
  · rw [unobjected] at objected
    cases objected
  · rw [found] at missing
    cases missing
  · rfl
  · exact StoredRelease.code?_of_toRelease spoilt

/-- The episode guard ends in a fault that is none of the history itself where it breaks off. -/
theorem uncoded_mayDownload_iff {a : Airing} {again : Bool} (allowed : c.check 1 = .ok ()) :
    (∃ f, (db.mayDownload c a again).1 = .error f ∧ f.code? = none) ↔
      ∃ ts, db.tables = some ts ∧ a.BreaksOff := by
  simp only [Database.mayDownload_eq_error_iff allowed]
  constructor
  · rintro ⟨f, ⟨-, rfl⟩ | ⟨titled, u, named, ⟨-, rfl⟩ | ⟨ts, found, large, rfl⟩⟩, uncoded⟩
    · cases uncoded
    · cases uncoded
    · exact ⟨ts, found, titled, u, named, large⟩
  · rintro ⟨ts, found, titled, u, named, large⟩
    exact ⟨.overflow, .inr ⟨titled, u, named, .inr ⟨ts, found, large, rfl⟩⟩, rfl⟩

/-- The checks of a call without limits end in a fault that is none of the history itself exactly
if they break off. -/
theorem endsIn_iff_breaksOff (allowed : c.check 1 = .ok ()) :
    (∃ f, k.EndsIn db c r f) ↔ k.BreaksOff db r := by
  constructor
  · rintro ⟨f, ends⟩
    cases ends with
    | detection failed uncoded =>
        obtain ⟨p, used, refused⟩ := failed
        obtain ⟨ts, found, broken⟩ := (uncoded_isDuplicate_iff allowed).1 ⟨f, refused, uncoded⟩
        exact ⟨ts, found, .inl ⟨p, used, broken⟩⟩
    | guard detected failed uncoded =>
        obtain ⟨smart, refused⟩ := failed
        obtain ⟨ts, found, broken⟩ := (uncoded_mayDownload_iff allowed).1 ⟨f, refused, uncoded⟩
        refine ⟨ts, found, .inr ⟨fun p used => ?_, smart, broken⟩⟩
        exact (Database.isDuplicate_ok_iff.1 ((detects_of_profile used).1 detected)).1
  · rintro ⟨ts, found, ⟨p, used, broken⟩ | ⟨unobjected, smart, broken⟩⟩
    · obtain ⟨f, refused, uncoded⟩ := (uncoded_isDuplicate_iff allowed).2 ⟨ts, found, broken⟩
      exact ⟨f, .detection ⟨p, used, refused⟩ uncoded⟩
    · obtain ⟨f, refused, uncoded⟩ := (uncoded_mayDownload_iff allowed).2 ⟨ts, found, broken⟩
      rcases k.detects_or_fails db c r with ⟨duplicate, detected⟩ | ⟨g, failed⟩
      · exact ⟨f, .guard detected ⟨smart, refused⟩ uncoded⟩
      · -- the guard is not reached, but then the checks have ended before it
        obtain ⟨p, used, stopped⟩ := id failed
        exact ⟨g, .detection failed (uncoded_of_isDuplicate allowed found (unobjected p used) stopped)⟩

/-- Every record of a ledger can be read, so that the checks of a release whose numbers fit do not
break off. -/
theorem not_breaksOff (known : db.tables = none ∨ ∃ run : Run, db.tables = run.database.tables)
    (fit : (r.filterId :: r.id :: r.airing.numbers).all Work.fits64 = true) : ¬k.BreaksOff db r := by
  rintro ⟨ts, found, broken⟩
  rcases known with none | ⟨run, same⟩
  · rw [none] at found
    cases found
  · obtain ⟨us, database, faithful⟩ := run.faithful
    obtain rfl : us = ts := by
      rw [same, database] at found
      exact Option.some.inj found
    simp only [List.all_cons, Bool.and_eq_true] at fit
    obtain ⟨filterFits, idFits, numbersFit⟩ := fit
    rcases broken with ⟨p, -, unobjected, large | ⟨f, stumbles⟩⟩ | ⟨-, -, -, u, named, large⟩
    · simp [filterFits, idFits] at large
    · obtain ⟨b, searched, -⟩ := faithful.firstDuplicate_priors unobjected
      rw [firstDuplicate_eq_error_iff.2 stumbles] at searched
      cases searched
    · rw [Airing.fits64_of_unit? named numbersFit] at large
      cases large

end Checks

/-! ## Verdicts -/

/-- Normalizing a release changes no number that is looked up. -/
theorem Release.numbers_normalize (r : Release) :
    r.normalize.filterId :: r.normalize.id :: r.normalize.airing.numbers =
      r.filterId :: r.id :: r.airing.numbers := by
  simp only [normalize, airing, Airing.numbers]

/-- Titles are compared. -/
def Checks.titles : Checks := { profile := some { toSwitches := { title := true } } }

/-- The filter id is the least that does not fit in 64 bits. -/
def Release.beyondFilters : Release := { title := "A", filterId := 9223372036854775808 }

namespace Database

/-- An evaluation comes to a verdict exactly if its checks do not break off; else the release is
left normalized and not judged.  A check that is asked for and fails is no way to be accepted. -/
theorem evaluate_settles_iff (db : Database) (clock : DateTime) (k : Checks) (r : Release) :
    let e := db.evaluate clock k r
    ((∃ v, e.outcome = .ok v) ↔ ¬k.BreaksOff db r.normalize) ∧
      (k.BreaksOff db r.normalize → e.release = r.normalize) ∧
      ∀ v, e.outcome = .ok v →
        (∃ f, k.DetectionFails db { clock } r.normalize f ∨ k.GuardFails db { clock } r.normalize f) →
          v.accepted = false ∧ e.release.filterStatus = .rejected := by
  rcases db.evaluate_cases clock k r with ⟨found, finds, evaluated⟩ | ⟨f, ends, evaluated⟩
  · have settled : ¬k.BreaksOff db r.normalize := by
      intro broken
      obtain ⟨f, ends⟩ := (Checks.endsIn_iff_breaksOff (Call.check_unlimited clock 1)).2 broken
      cases evaluated.symm.trans (evaluate_of_endsIn ends)
    simp only [evaluated]
    refine ⟨iff_of_true ⟨_, rfl⟩ settled, fun broken => absurd broken settled, ?_⟩
    rintro v given ⟨f, failed⟩
    obtain rfl := Except.ok.inj given
    have some : found ≠ [] := by
      intro none
      obtain ⟨detected, answered⟩ := finds.eq_nil_iff.1 none
      rcases failed with failed | failed
      · exact failed.not_detects detected
      · exact failed.not_allows answered
    simp [conclude, Release.judge, some]
  · have broken : k.BreaksOff db r.normalize :=
      (Checks.endsIn_iff_breaksOff (Call.check_unlimited clock 1)).1 ⟨f, ends⟩
    simp only [evaluated]
    exact ⟨iff_of_false nofun (not_not_intro broken), fun _ => trivial, nofun⟩

/-- Without tables the duplicate check fails before the filter id is looked up, and rejects the
release. -/
theorem evaluate_settles_untabled :
    let e := ({} : Database).evaluate Call.inMay.clock .titles .beyondFilters
    ∃ v, e.outcome = .ok v ∧ v.accepted = false ∧ e.release.filterStatus = .rejected := by
  obtain ⟨settles, -, rejects⟩ := evaluate_settles_iff {} Call.inMay.clock .titles .beyondFilters
  obtain ⟨v, given⟩ := settles.2 fun ⟨_, found, _⟩ => nomatch found
  have failed : Checks.titles.DetectionFails {} { clock := Call.inMay.clock }
      Release.beyondFilters.normalize (.unavailable (.missingTable .release)) :=
    ⟨_, rfl, by decide +kernel⟩
  exact ⟨v, given, rejects v given ⟨_, .inl failed⟩⟩

/-- With tables the check breaks off: there is no verdict, and the release is not rejected. -/
theorem not_settled_beyondFilters :
    let e := Database.initialised.evaluate Call.inMay.clock .titles .beyondFilters
    e.outcome = .error .overflow ∧ (¬∃ v, e.outcome = .ok v) ∧
      e.release.filterStatus ≠ .rejected := by
  intro e
  have outcome : e.outcome = .error .overflow := by decide +kernel
  refine ⟨outcome, ?_, by decide +kernel⟩
  rw [outcome]
  exact nofun

/-- On a history that was only ever changed by its own operations, and on one without tables, the
checks of a release come to rejections, and these are the verdict: it is accepted exactly if
there are none, that is, if every check that is asked for was completed and is passed. -/
theorem evaluate_verdict (db : Database) (clock : DateTime) (k : Checks) (r : Release)
    (known : db.tables = none ∨ ∃ run : Run, db.tables = run.database.tables)
    (fit : (r.filterId :: r.id :: r.airing.numbers).all Work.fits64 = true) :
    ∃ found, k.Finds db { clock } r.normalize found ∧
      db.evaluate clock k r =
        ⟨.ok ⟨found.isEmpty, found.map Rejection.message⟩,
          { r.normalize with
            filterStatus := if found.isEmpty then .approved else .rejected
            rejections := r.rejections ++ found.map Rejection.message }, db⟩ ∧
      (found = [] ↔
        (∀ p, k.profile = some p → (db.isDuplicate { clock } p r.normalize).1 = .ok false) ∧
          (k.smartEpisode = true →
            (db.mayDownload { clock } r.normalize.airing k.allowReacquire).1 = .ok true)) := by
  have settled : ¬k.BreaksOff db r.normalize :=
    Checks.not_breaksOff known (r.numbers_normalize ▸ fit)
  rcases db.evaluate_cases clock k r with ⟨found, finds, evaluated⟩ | ⟨f, ends, -⟩
  · refine ⟨found, finds, ?_, finds.eq_nil_iff.trans (and_congr ?_ ?_)⟩
    · rw [evaluated]
      cases found <;> simp [conclude, Release.judge, Release.normalize]
    · cases used : k.profile with
      | none => simp [Checks.Detects, used]
      | some p => simp [Checks.detects_of_profile used]
    · cases smart : k.smartEpisode with
      | false => simp [Checks.allows_of_not_smart smart]
      | true => simp [Checks.allows_of_smart smart]
  · exact absurd ((Checks.endsIn_iff_breaksOff (Call.check_unlimited clock 1)).1 ⟨f, ends⟩) settled

/-- An episode that was delivered, under its title in another case, is rejected by both checks. -/
theorem evaluate_verdict_oneEpisode :
    let k : Checks := { Checks.titles with smartEpisode := true }
    let r : Release := { title := "A", season := 1, episode := 2 }
    (r.filterId :: r.id :: r.airing.numbers).all Work.fits64 = true ∧
      ∃ found, k.Finds Run.oneEpisode.database { clock := Call.inMay.clock } r.normalize found ∧
        found.map Rejection.message = ["duplicate release", "episode already delivered"] := by
  intro k r
  have fit : (r.filterId :: r.id :: r.airing.numbers).all Work.fits64 = true := by decide +kernel
  obtain ⟨found, finds, evaluated, -⟩ :=
    evaluate_verdict Run.oneEpisode.database Call.inMay.clock k r (.inr ⟨_, rfl⟩) fit
  have outcome : (Run.oneEpisode.database.evaluate Call.inMay.clock k r).outcome =
      .ok ⟨false, ["duplicate release", "episode already delivered"]⟩ := by decide +kernel
  rw [evaluated] at outcome
  exact ⟨fit, found, finds, congrArg Verdict.rejections (Except.ok.inj outcome)⟩

end Database

end ReleaseHistory
