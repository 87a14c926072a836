/-
# ReleaseHistory.Proofs.Normalization -- what normalizing a release leaves as it is

Normalizing a release a second time changes nothing (`Release.normalize_normalize`), and what is
compared of a release is what was compared of it before (`Release.projection_normalize`): the
markers that leave the titles are found in the flags.

A history in which every kept release is normalized has the same ids, the same statuses and the
same profiles.  It has the same releases to compare with a candidate, delivers the same units and
loses the same releases in a purge.
-/
import ReleaseHistory.Proofs.EditionMarkers
import ReleaseHistory.Proofs.Tables
import ReleaseHistory.Store.Deliveries
import ReleaseHistory.Store.Purge
import Mathlib.Logic.Function.Iterate

namespace ReleaseHistory

set_option autoImplicit false

-- from here on only the lemmas about them open the two ways of stripping a text
attribute [local irreducible] Edition.titleText Edition.stripText Edition.announcedBy

/-! ## Announcements -/

namespace Announcement

/-- The title or the sub-title announces the edition. -/
def announces (a : Announcement) (e : Edition) : Bool :=
  e.announcedBy a.title || e.announcedBy a.subTitle

/-- The announcement with its edition markers moved from the titles into the flags. -/
def normalize (a : Announcement) : Announcement :=
  { a with
    proper := a.proper || a.announces .proper
    repack := a.repack || a.announces .repack
    title := Edition.titleText a.title
    subTitle := Edition.stripText a.subTitle }

/-- A marker that is left in a title is the whole of it, so that it was announced before. -/
theorem announces_of_normalize {a : Announcement} {e : Edition} (still : a.normalize.announces e = true) :
    a.announces e = true := by
  rcases Bool.or_eq_true_iff.1 still with title | subTitle
  · exact Bool.or_eq_true_iff.2 (.inl (Edition.announcedBy_of_titleText title))
  · rw [normalize, Edition.announcedBy_stripText] at subTitle
    exact absurd subTitle Bool.false_ne_true

/-- A flag that takes what is announced has nothing more to take. -/
theorem flag_normalize (a : Announcement) (e : Edition) (flag : Bool) :
    (flag || a.announces e || a.normalize.announces e) = (flag || a.announces e) := by
  cases still : a.normalize.announces e with
  | false => exact Bool.or_false _
  | true => rw [announces_of_normalize still, Bool.or_true, Bool.or_true]

@[simp] theorem title_normalize (a : Announcement) :
    a.normalize.title = Edition.titleText a.title := rfl

@[simp] theorem subTitle_normalize (a : Announcement) :
    a.normalize.subTitle = Edition.stripText a.subTitle := rfl

@[simp] theorem proper_normalize (a : Announcement) :
    a.normalize.proper = (a.proper || a.announces .proper) := rfl

@[simp] theorem repack_normalize (a : Announcement) :
    a.normalize.repack = (a.repack || a.announces .repack) := rfl

/-- Where the titles have no markers to lose, normalizing does nothing. -/
theorem normalize_eq_self {a : Announcement} (title : Edition.titleText a.title = a.title)
    (subTitle : Edition.stripText a.subTitle = a.subTitle)
    (proper : (a.proper || a.announces .proper) = a.proper)
    (repack : (a.repack || a.announces .repack) = a.repack) : a.normalize = a := by
  rw [normalize, title, subTitle, proper, repack]

/-- Normalizing an announcement twice is normalizing it once. -/
theorem normalize_normalize (a : Announcement) : a.normalize.normalize = a.normalize := by
  apply normalize_eq_self
  · rw [title_normalize, Edition.titleText_titleText]
  · rw [subTitle_normalize, Edition.stripText_stripText]
  · exact a.flag_normalize .proper a.proper
  · exact a.flag_normalize .repack a.repack

end Announcement

/-! ## Releases -/

namespace Release

theorem normalize_eq (r : Release) :
    r.normalize = { r with
      toAnnouncement := r.toAnnouncement.normalize
      normalizedTitle := Text.canonical (Edition.titleText r.title) } := rfl

/-- What is compared of a release depends on its normalized announcement only, and not on the
column of its canonical title. -/
theorem projection_with_normalize (r : Release) (normalizedTitle : String) :
    Release.projection { r with toAnnouncement := r.toAnnouncement.normalize, normalizedTitle } =
      r.projection := by
  have fields : Release.projection { r with
        toAnnouncement := r.toAnnouncement.normalize, normalizedTitle } =
      { r.projection with
        title := Text.canonical (Edition.titleText r.toAnnouncement.normalize.title)
        subTitle := Text.canonical (Edition.stripText r.toAnnouncement.normalize.subTitle)
        proper := r.toAnnouncement.normalize.proper || r.toAnnouncement.normalize.announces .proper
        repack := r.toAnnouncement.normalize.repack || r.toAnnouncement.normalize.announces .repack } :=
    rfl
  rw [fields, Announcement.title_normalize, Edition.titleText_titleText, Announcement.subTitle_normalize,
    Edition.stripText_stripText, Announcement.proper_normalize, Announcement.flag_normalize,
    Announcement.repack_normalize, Announcement.flag_normalize]
  rfl

/-- Normalizing a release changes nothing of what is compared. -/
theorem projection_normalize (r : Release) : r.normalize.projection = r.projection :=
  r.projection_with_normalize _

/-- Normalizing a release twice is normalizing it once. -/
theorem normalize_normalize (r : Release) : r.normalize.normalize = r.normalize := by
  have announcement : r.normalize.toAnnouncement = r.toAnnouncement.normalize := rfl
  rw [normalize_eq r.normalize, announcement, Announcement.normalize_normalize,
    Announcement.title_normalize, Edition.titleText_titleText]
  rfl

/-- The canonical title of a normalized release is the title that is compared. -/
theorem normalizedTitle_normalize (r : Release) :
    r.normalize.normalizedTitle = r.normalize.projection.title := by
  have title : r.normalize.projection.title = r.projection.title := by rw [projection_normalize]
  exact title.symm

/-- Normalizing settles a release: a second time changes no field, nothing of what is compared
has changed, and the canonical title is the compared one.  It rests on stripping a text once and for
all, which leaves no run of markers behind and trims both ends. -/
theorem normalize_settles (r : Release) :
    r.normalize.normalize = r.normalize ∧
      r.normalize.projection = r.projection ∧
      r.normalize.normalizedTitle = r.normalize.projection.title ∧
      ∀ s : String,
        Edition.stripText (Edition.stripText s) = Edition.stripText s ∧
          Edition.trailingText (Edition.stripText s) = "" ∧
          (Edition.stripText s).toList.head?.any Edition.isEdge = false ∧
          (Edition.stripText s).toList.getLast?.any Edition.isEdge = false := by
  refine ⟨r.normalize_normalize, r.projection_normalize, r.normalizedTitle_normalize, fun s => ?_⟩
  exact ⟨Edition.stripText_stripText s, Edition.trailingText_stripText s, Edition.head?_stripText s,
    Edition.getLast?_stripText s⟩

/-- However often a release was normalized, normalizing it once more gives the same. -/
theorem normalize_iterate (n : Nat) (r : Release) : (normalize^[n] r).normalize = r.normalize := by
  induction n with
  | zero => rw [Function.iterate_zero_apply]
  | succ n ih => rw [Function.iterate_succ_apply', normalize_normalize, ih]

theorem titleText_iterate (n : Nat) (r : Release) :
    Edition.titleText (normalize^[n] r).title = Edition.titleText r.title :=
  congrArg (fun r : Release => r.title) (r.normalize_iterate n)

end Release

/-! ## Rows -/

/-- The row of a release that was normalized before it was kept. -/
def StoredRelease.normalize (row : StoredRelease) : StoredRelease :=
  { row with toAnnouncement := row.toAnnouncement.normalize }

theorem StoredRelease.numbers_normalize (row : StoredRelease) : row.normalize.numbers = row.numbers := rfl

/-- Keeping a release that was normalized keeps the normalized row. -/
theorem StoredRelease.ofRelease_normalize (r : Release) (t : DateTime) :
    StoredRelease.ofRelease r.normalize t = (StoredRelease.ofRelease r t).map StoredRelease.normalize := by
  unfold StoredRelease.ofRelease
  rw [Release.projection_normalize]
  cases t.toNaiveUtc? <;> rfl

/-- Reading the normalized row gives the release of the row, its announcement normalized. -/
theorem StoredRelease.toRelease_normalize (row : StoredRelease) (id : Int) (statuses : List ActionStatus) :
    row.normalize.toRelease id statuses =
      (fun r => { r with toAnnouncement := r.toAnnouncement.normalize }) <$> row.toRelease id statuses := by
  simp only [StoredRelease.toRelease, map_bind, map_pure]
  rfl

/-! ## Tables -/

namespace Table

variable {α β : Type}

/-- The table with every record changed under its id. -/
def map (f : α → β) (t : Table α) : Table β :=
  ⟨t.rows.map (Prod.map id f), List.pairwise_map.2 t.ascending⟩

@[simp] theorem size_map (f : α → β) (t : Table α) : (t.map f).size = t.size := List.length_map _

@[simp] theorem get?_map (f : α → β) (t : Table α) (id : Int) : (t.map f).get? id = (t.get? id).map f := by
  apply Option.ext
  intro b
  rw [get?_eq_some_iff, Option.map_eq_some_iff]
  simp only [map, List.mem_map, Prod.map, Prod.mk.injEq, id_eq, Prod.exists]
  constructor
  · rintro ⟨k, a, held, rfl, rfl⟩
    exact ⟨a, t.get?_eq_some_iff.2 held, rfl⟩
  · rintro ⟨a, held, rfl⟩
    exact ⟨id, a, t.get?_eq_some_iff.1 held, rfl, rfl⟩

@[simp] theorem contains_map (f : α → β) (t : Table α) (id : Int) :
    (t.map f).contains id = t.contains id := by
  rw [contains, get?_map, Option.isSome_map, contains]

/-- Which id a new record gets depends on the ids alone, whatever is drawn. -/
@[simp] theorem nextId?_map (f : α → β) (t : Table α) (draws : List DrawnId) :
    (t.map f).nextId? draws = t.nextId? draws := by
  have last : (t.map f).rows.getLast? = t.rows.getLast?.map (Prod.map id f) := List.getLast?_map
  unfold nextId?
  rw [last]
  cases t.rows.getLast? with
  | none => rfl
  | some last => simp only [Option.map_some, Prod.map, id_eq, contains_map]

theorem insertRow_map (f : α → β) (k : Int) (a : α) (rows : List (Int × α)) :
    insertRow k (f a) (rows.map (Prod.map id f)) = (insertRow k a rows).map (Prod.map id f) := by
  induction rows with
  | nil => rfl
  | cons row rows ih =>
      simp only [List.map_cons, Prod.map, id_eq, insertRow]
      split
      · rfl
      · split
        · rfl
        · rw [List.map_cons, ← ih]
          rfl

theorem insert_map (f : α → β) (t : Table α) (k : Int) (a : α) :
    (t.map f).insert k (f a) = (t.insert k a).map f :=
  ext_rows (insertRow_map f k a t.rows)

/-- A choice by ids is the same among the changed records. -/
theorem filter_map (f : α → β) (t : Table α) (keep : Int → Bool) :
    (t.map f).filter (fun k _ => keep k) = (t.filter fun k _ => keep k).map f :=
  ext_rows (List.filter_map ..)

end Table

/-- The tables of a history in which every release was normalized before it was kept. -/
def Tables.normalize (ts : Tables) : Tables :=
  { ts with releases := ts.releases.map StoredRelease.normalize }

/-- The history in which every release was normalized before it was kept. -/
def Database.normalize (db : Database) : Database :=
  { db with tables := db.tables.map Tables.normalize }

namespace Tables

theorem dropReleases_normalize (ts : Tables) (ids : List Int) :
    ts.normalize.dropReleases ids = (ts.dropReleases ids).normalize := by
  rw [dropReleases, normalize, Table.filter_map _ _ fun id => !ids.contains id]
  rfl

theorem rows_normalize (ts : Tables) :
    ts.normalize.releases.rows = ts.releases.rows.map (Prod.map id StoredRelease.normalize) := rfl

theorem profiles_normalize (ts : Tables) : ts.normalize.profiles = ts.profiles := rfl

/-- The same releases are compared with a candidate. -/
theorem priors_normalize (ts : Tables) (s : Switches) (r : Release) :
    ts.normalize.priors s r.normalize =
      (ts.priors s r).map (Prod.map id StoredRelease.normalize) := by
  unfold priors
  rw [Release.projection_normalize, rows_normalize, List.filter_map]
  rfl

/-- The same releases deliver a unit. -/
theorem deliveries_normalize (ts : Tables) (title : String) (u : AiringUnit) :
    ts.normalize.deliveries title u = ts.deliveries title u := by
  unfold deliveries
  rw [rows_normalize, List.countP_map]
  cases u <;> rfl

end Tables

/-- A candidate repeats the same release. -/
theorem firstDuplicate_normalize (s : Switches) (candidate : Projection) (rows : List (Int × StoredRelease)) :
    firstDuplicate s candidate (rows.map (Prod.map id StoredRelease.normalize)) =
      firstDuplicate s candidate rows := by
  induction rows with
  | nil => rfl
  | cons row rows ih =>
      have first := row.2.toRelease_normalize row.1 []
      rw [List.map_cons, firstDuplicate, firstDuplicate, Prod.map, id_eq, first, ih]
      cases row.2.toRelease row.1 [] with
      | error f => rfl
      | ok prior =>
          have same := prior.projection_with_normalize prior.normalizedTitle
          show (if s.sameRelease candidate (Release.projection _) then _ else _) = _
          rw [same]
          rfl

/-- A purge asks for the same releases. -/
theorem Purge.matching_normalize (p : Purge) (cutoff : Option DateTime) (ts : Tables) :
    p.matching cutoff ts.normalize = p.matching cutoff ts := by
  rw [matching, Tables.rows_normalize, List.filter_map, List.map_map]
  rfl

end ReleaseHistory
