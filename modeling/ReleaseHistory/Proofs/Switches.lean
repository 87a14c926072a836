/-
# ReleaseHistory.Proofs.Switches -- what the switches of a profile do to a decision

What the check for duplicates answers, it answers by its profile:

* A profile with more switches on finds fewer duplicates (`Switches.Within`,
  `sameRelease_of_within`).
* Only what is switched on of a candidate is compared, besides its filter and its id
  (`Switches.AgreeOn`, `sameRelease_of_agreeOn`).
* A profile that compares names compares nothing else, whatever else is switched on
  (`sameRelease_of_comparesNames`).

`Within` and `AgreeOn` go through the switches one by one and do not know of `Dimension`, so
that a dimension that was compared under the switch of another would come out here.

The last two are about two candidates of which the check makes the same
(`Database.isDuplicate_congr`); they hold for every database.  The first needs records that can
be read, which those of every run can (`Database.isDuplicate_by_switches`).
-/
import ReleaseHistory.Proofs.Duplicates

namespace ReleaseHistory

set_option autoImplicit false

namespace Switches

/-! ## Switches and projections, one by one -/

/-- What the first profile compares, the second one compares, too. -/
structure Within (s t : Switches) : Prop where
  title : s.title = true → t.title = true
  subTitle : s.subTitle = true → t.subTitle = true
  protocol : s.protocol = true → t.protocol = true
  year : s.year = true → t.year = true
  month : s.month = true → t.month = true
  day : s.day = true → t.day = true
  season : s.season = true → t.season = true
  episode : s.episode = true → t.episode = true
  source : s.source = true → t.source = true
  resolution : s.resolution = true → t.resolution = true
  codec : s.codec = true → t.codec = true
  container : s.container = true → t.container = true
  hdr : s.hdr = true → t.hdr = true
  audio : s.audio = true → t.audio = true
  group : s.group = true → t.group = true
  website : s.website = true → t.website = true
  proper : s.proper = true → t.proper = true
  repack : s.repack = true → t.repack = true

/-- Two releases are the same in all that is switched on, their names included. -/
structure AgreeOn (s : Switches) (a b : Projection) : Prop where
  releaseName : s.releaseName = true → a.torrentName = b.torrentName
  title : s.title = true → a.title = b.title
  subTitle : s.subTitle = true → a.subTitle = b.subTitle
  protocol : s.protocol = true → a.protocol = b.protocol
  year : s.year = true → a.year = b.year
  month : s.month = true → a.month = b.month
  day : s.day = true → a.day = b.day
  season : s.season = true → a.season = b.season
  episode : s.episode = true → a.episode = b.episode
  source : s.source = true → a.source = b.source
  resolution : s.resolution = true → a.resolution = b.resolution
  codec : s.codec = true → a.codec = b.codec
  container : s.container = true → a.container = b.container
  hdr : s.hdr = true → a.hdr = b.hdr
  audio : s.audio = true → a.audio = b.audio
  group : s.group = true → a.group = b.group
  website : s.website = true → a.website = b.website
  proper : s.proper = true → a.proper = b.proper
  repack : s.repack = true → a.repack = b.repack

variable {s t : Switches} {a b prior : Projection}

theorem Within.enables (within : s.Within t) (d : Dimension) (on : s.enables d = true) :
    t.enables d = true := by
  cases d with
  | title => exact within.title on
  | subTitle => exact within.subTitle on
  | protocol => exact within.protocol on
  | year => exact within.year on
  | month => exact within.month on
  | day => exact within.day on
  | season => exact within.season on
  | episode => exact within.episode on
  | source => exact within.source on
  | resolution => exact within.resolution on
  | codec => exact within.codec on
  | container => exact within.container on
  | hdr => exact within.hdr on
  | audio => exact within.audio on
  | group => exact within.group on
  | website => exact within.website on
  | proper => exact within.proper on
  | repack => exact within.repack on

theorem AgreeOn.agrees (agree : s.AgreeOn a b) (d : Dimension) (on : s.enables d = true) :
    d.agrees a b = true := by
  cases d with
  | title => exact beq_iff_eq.2 (agree.title on)
  | subTitle => exact beq_iff_eq.2 (agree.subTitle on)
  | protocol => exact beq_iff_eq.2 (agree.protocol on)
  | year => exact beq_iff_eq.2 (agree.year on)
  | month => exact beq_iff_eq.2 (agree.month on)
  | day => exact beq_iff_eq.2 (agree.day on)
  | season => exact beq_iff_eq.2 (agree.season on)
  | episode => exact beq_iff_eq.2 (agree.episode on)
  | source => exact beq_iff_eq.2 (agree.source on)
  | resolution => exact beq_iff_eq.2 (agree.resolution on)
  | codec => exact beq_iff_eq.2 (agree.codec on)
  | container => exact beq_iff_eq.2 (agree.container on)
  | hdr => exact beq_iff_eq.2 (agree.hdr on)
  | audio => exact beq_iff_eq.2 (agree.audio on)
  | group => exact beq_iff_eq.2 (agree.group on)
  | website => exact beq_iff_eq.2 (agree.website on)
  | proper => exact beq_iff_eq.2 (agree.proper on)
  | repack => exact beq_iff_eq.2 (agree.repack on)

/-! ## What is compared -/

theorem sameRelease_iff (names : s.comparesNames = false) :
    s.sameRelease a b = true ↔ ∀ d, s.enables d = true → d.agrees a b = true := by
  rw [sameRelease, names, if_neg Bool.false_ne_true, List.all_eq_true]
  constructor
  · intro all d on
    exact all d (List.mem_filter.2 ⟨d.mem_all, on⟩)
  · intro all d compared
    exact all d (List.mem_filter.1 compared).2

/-- What is the same with more switches on is the same with fewer. -/
theorem sameRelease_of_within (within : s.Within t) (names : s.comparesNames = false)
    (names' : t.comparesNames = false) (same : t.sameRelease a b = true) :
    s.sameRelease a b = true := by
  rw [sameRelease_iff names'] at same
  rw [sameRelease_iff names]
  intro d on
  exact same d (within.enables d on)

theorem agrees_congr {d : Dimension} (same : d.agrees a b = true) (prior : Projection) :
    d.agrees a prior = d.agrees b prior := by
  cases d <;> simp only [Dimension.agrees, beq_iff_eq] at same ⊢ <;> rw [same]

/-- Two candidates that agree on what is compared are the same as the same releases. -/
theorem sameRelease_of_agreeOn (agree : s.AgreeOn a b) (names : s.comparesNames = false) :
    s.sameRelease a = s.sameRelease b := by
  funext prior
  rw [Bool.eq_iff_iff, sameRelease_iff names, sameRelease_iff names]
  refine forall_congr' fun d => imp_congr_right fun on => ?_
  rw [agrees_congr (agree.agrees d on) prior]

/-- Where names are compared, nothing else is. -/
theorem sameRelease_of_comparesNames (names : s.comparesNames = true) (names' : t.comparesNames = true)
    (same : a.torrentName = b.torrentName) : s.sameRelease a = t.sameRelease b := by
  funext prior
  rw [sameRelease, sameRelease, if_pos names, if_pos names', same]

end Switches

/-! ## Candidates of which the check makes the same -/

theorem firstDuplicate_congr {s t : Switches} {a b : Projection}
    (same : s.sameRelease a = t.sameRelease b) (rows : List (Int × StoredRelease)) :
    firstDuplicate s a rows = firstDuplicate t b rows := by
  induction rows with
  | nil => rfl
  | cons row rows ih =>
      obtain ⟨id, row⟩ := row
      rw [firstDuplicate, firstDuplicate, same, ih]

namespace Database

variable {db : Database} {c : Call} {p q : Profile} {r s : Release}

/-- The check answers the same about two candidates that are as good for their profiles, are
looked up among the same records, and are the same as the same of them. -/
theorem isDuplicate_congr (objection : p.objection? r.projection = q.objection? s.projection)
    (sameFilter : r.filterId = s.filterId) (sameId : r.id = s.id)
    (priors : ∀ ts : Tables, ts.priors p.toSwitches r = ts.priors q.toSwitches s)
    (same : p.sameRelease r.projection = q.sameRelease s.projection) :
    db.isDuplicate c p r = db.isDuplicate c q s := by
  have search : firstDuplicate p.toSwitches r.projection = firstDuplicate q.toSwitches s.projection :=
    funext (firstDuplicate_congr same)
  simp only [isDuplicate, objection, sameFilter, sameId, priors, search]

/-- Where names are compared, a name is looked at, its filter and its id. -/
theorem isDuplicate_of_comparesNames (names : p.comparesNames = true) (names' : q.comparesNames = true)
    (sameName : r.torrentName = s.torrentName) (sameFilter : r.filterId = s.filterId)
    (sameId : r.id = s.id) : db.isDuplicate c p r = db.isDuplicate c q s := by
  have projected : r.projection.torrentName = s.projection.torrentName := sameName
  refine isDuplicate_congr ?_ sameFilter sameId ?_
    (Switches.sameRelease_of_comparesNames names names' projected)
  · simp only [Profile.objection?, names, names', projected, Bool.not_true, Bool.and_false,
      Bool.false_and, Bool.false_eq_true, if_false]
  · intro ts
    simp only [Tables.priors, names, names', sameName, sameFilter, sameId, if_true]

/-- Of a candidate, what is switched on is looked at, its filter and its id. -/
theorem isDuplicate_of_agreeOn (agree : p.AgreeOn r.projection s.projection) (title : p.title = true)
    (inexact : p.exact = false) (sameFilter : r.filterId = s.filterId) (sameId : r.id = s.id) :
    db.isDuplicate c p r = db.isDuplicate c p s := by
  have byName : p.comparesNames = p.releaseName := by rw [Switches.comparesNames, inexact, Bool.false_or]
  cases names : p.comparesNames with
  | true =>
      have sameName : r.torrentName = s.torrentName := agree.releaseName (byName.symm.trans names)
      exact isDuplicate_of_comparesNames names names sameName sameFilter sameId
  | false =>
      have sameTitle := agree.title title
      refine isDuplicate_congr ?_ sameFilter sameId ?_ (Switches.sameRelease_of_agreeOn agree names)
      · simp only [Profile.objection?, title, names, sameTitle, Bool.false_and]
      · intro ts
        simp only [Tables.priors, names, sameFilter, sameId, sameTitle, Bool.false_eq_true, if_false]

/-- With fewer switches on, more is a duplicate. -/
theorem isDuplicate_of_within {ts : Tables} {l : Ledger} (faithful : l.Faithful ts)
    (found : db.tables = some ts) (within : p.Within q.toSwitches) (title : p.title = true)
    (names : p.comparesNames = false) (names' : q.comparesNames = false)
    (duplicate : (db.isDuplicate c q r).1 = .ok true) : (db.isDuplicate c p r).1 = .ok true := by
  obtain ⟨unobjected, allowed, filterFits, idFits, hit⟩ :=
    (faithful.isDuplicate_eq_ok_iff found).1 duplicate
  have answerable : p.objection? r.projection = none := by
    rw [Profile.objection?_eq_none_iff] at unobjected ⊢
    rintro (⟨off, -⟩ | ⟨on, -⟩ | ⟨-, empty⟩)
    · rw [title] at off
      cases off
    · rw [names] at on
      cases on
    · exact unobjected (.inr (.inr ⟨names', empty⟩))
  obtain ⟨id, prior, entered, sameFilter, other, delivered, same⟩ := hit.1 rfl
  have repeated : l.Repeats p.toSwitches r :=
    ⟨id, prior, entered, sameFilter, other, delivered,
      Switches.sameRelease_of_within within names names' same⟩
  exact (faithful.isDuplicate_eq_ok_iff found).2
    ⟨answerable, allowed, filterFits, idFits, iff_of_true rfl repeated⟩

/-- After every run, and whatever holds the lock: what is a duplicate with more switches on is
one with fewer, as long as the title is compared; two candidates of the same filter and id that
agree on what is switched on get the same answer, or the same refusal; and where names are
compared two candidates of the same name, filter and id do, whatever else the profiles say. -/
theorem isDuplicate_by_switches (run : Run) (locked : Bool) (c : Call) (p q : Profile)
    (r s : Release) :
    let db : Database := { run.database with locked }
    (p.comparesNames = false → q.comparesNames = false → p.title = true →
      p.Within q.toSwitches → (db.isDuplicate c q r).1 = .ok true →
        (db.isDuplicate c p r).1 = .ok true) ∧
      (p.exact = false → p.title = true → r.id = s.id → r.filterId = s.filterId →
        p.AgreeOn r.projection s.projection → (db.isDuplicate c p r).1 = (db.isDuplicate c p s).1) ∧
      (p.comparesNames = true → q.comparesNames = true → r.id = s.id → r.filterId = s.filterId →
        r.torrentName = s.torrentName → (db.isDuplicate c p r).1 = (db.isDuplicate c q s).1) := by
  intro db
  obtain ⟨ts, database, faithful⟩ := run.faithful
  have found : db.tables = some ts := congrArg Database.tables database
  refine ⟨?_, ?_, ?_⟩
  · intro names names' title within duplicate
    exact isDuplicate_of_within faithful found within title names names' duplicate
  · intro inexact title sameId sameFilter agree
    rw [isDuplicate_of_agreeOn agree title inexact sameFilter sameId]
  · intro names names' sameId sameFilter sameName
    rw [isDuplicate_of_comparesNames names names' sameName sameFilter sameId]

/-- The kept release is repeated by title and year, so it is by title; a candidate with other
tags and another size repeats it as well, and by its name it is found whatever its title is. -/
theorem isDuplicate_by_switches_delivery :
    let db : Database := Run.delivery.database
    let titles : Profile := { toSwitches := { title := true } }
    let years : Profile := { toSwitches := { title := true, year := true } }
    let byName : Profile := { toSwitches := { exact := true, title := true } }
    let named : Profile := { toSwitches := { releaseName := true, year := true } }
    (db.isDuplicate .inMay years { title := "a" }).1 = .ok true ∧
      (db.isDuplicate .inMay titles { title := "a" }).1 = .ok true ∧
      (db.isDuplicate .inMay titles { title := "a" }).1 =
        (db.isDuplicate .inMay titles { title := "A", year := 1999, tags := ["x"] }).1 ∧
      (db.isDuplicate .inMay byName { torrentName := "a", title := "B" }).1 =
        (db.isDuplicate .inMay named { torrentName := "a", year := 1999 }).1 ∧
      (db.isDuplicate .inMay byName { torrentName := "a", title := "B" }).1 = .ok true := by
  intro db titles years byName named
  have narrow : titles.Within years.toSwitches := by constructor <;> decide
  have agree : titles.AgreeOn ({ title := "a" } : Release).projection
      ({ title := "A", year := 1999, tags := ["x"] } : Release).projection := by
    constructor <;> decide +kernel
  have duplicate : (db.isDuplicate .inMay years { title := "a" }).1 = .ok true := by decide +kernel
  refine ⟨duplicate, ?_, ?_, ?_, by decide +kernel⟩
  · exact (isDuplicate_by_switches Run.delivery false .inMay titles years { title := "a" } {}).1
      rfl rfl rfl narrow duplicate
  · exact (isDuplicate_by_switches Run.delivery false .inMay titles years { title := "a" }
      { title := "A", year := 1999, tags := ["x"] }).2.1 rfl rfl rfl rfl agree
  · exact (isDuplicate_by_switches Run.delivery false .inMay byName named
      { torrentName := "a", title := "B" } { torrentName := "a", year := 1999 }).2.2
      rfl rfl rfl rfl rfl

end Database

end ReleaseHistory
