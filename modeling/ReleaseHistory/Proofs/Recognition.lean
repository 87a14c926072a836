/-
# ReleaseHistory.Proofs.Recognition -- which reports can be read, and which flags they set

A report on a name is read unless a number that opens its year, season or episode is infinite, or
its other properties have a list or a record among them (`Release.exists_ofReport_iff`).

The flags of a release are decided by the report, and decided again by its texts when the release
is normalized.  A report without an edition marker sets neither flag, but the texts still do:
both flags stay clear exactly if no run of markers ends the title or the episode title
(`Release.ofReport_unmarked`).
-/
import ReleaseHistory.Recognition
import ReleaseHistory.Proofs.MarkerGrammar
import ReleaseHistory.Proofs.Reading

namespace ReleaseHistory

set_option autoImplicit false

attribute [local irreducible] Edition.titleText Edition.stripText Edition.announcedBy

namespace Recognition

/-! ## Reports that can be read -/

/-- No infinite number opens the value. -/
def opensFinite (v : Value) : Bool :=
  match v.entries with
  | .float (.infinite _) :: _ => false
  | _ => true

/-- The value is a list or a record. -/
def isNested : Value → Bool
  | .list _ => true
  | .record _ => true
  | _ => false

/-- All that is looked up in a report can be read. -/
structure IsLegible (report : Value) : Prop where
  year : opensFinite (report.field "year") = true
  season : opensFinite (report.field "season") = true
  episode : opensFinite (report.field "episode") = true
  other : ∀ v ∈ (report.field "other").entries, isNested v = false

instance (report : Value) : Decidable (IsLegible report) :=
  decidable_of_iff
    (opensFinite (report.field "year") = true ∧ opensFinite (report.field "season") = true ∧
      opensFinite (report.field "episode") = true ∧
      ∀ v ∈ (report.field "other").entries, isNested v = false)
    ⟨fun ⟨year, season, episode, other⟩ => ⟨year, season, episode, other⟩,
      fun legible => ⟨legible.year, legible.season, legible.episode, legible.other⟩⟩

theorem exists_firstNumber_iff (v : Value) :
    (∃ n, firstNumber v = .ok n) ↔ opensFinite v = true := by
  unfold firstNumber opensFinite
  cases v.entries with
  | nil => simp
  | cons first rest =>
      cases first with
      | float x => cases x <;> simp [wholeNumber]
      | _ => simp [wholeNumber]

theorem exists_dynamicRange?_iff (v : Value) :
    (∃ range, dynamicRange? v = .ok range) ↔ isNested v = false := by
  cases v <;> simp [dynamicRange?, isNested]

theorem exists_dynamicRanges_iff (vs : List Value) :
    (∃ ranges, vs.mapM dynamicRange? = .ok ranges) ↔ ∀ v ∈ vs, isNested v = false := by
  constructor
  · rintro ⟨ranges, read⟩ v held
    obtain ⟨range, -, readAs⟩ := Ledger.Faithful.exists_related (mapM_eq_ok_iff.1 read) held
    exact (exists_dynamicRange?_iff v).1 ⟨range, readAs⟩
  · intro flat
    exact exists_mapM_eq_ok fun v held => (exists_dynamicRange?_iff v).2 (flat v held)

/-- A report that mentions no edition marker sets no flag by itself. -/
theorem editionFlags_unmarked {name title : String} {report : Value}
    (unmarked : mentionsEdition report = false) : editionFlags name title report = (false, false) := by
  rw [editionFlags, unmarked, if_neg Bool.false_ne_true]

end Recognition

namespace Release

open Recognition

variable {name : String} {report : Value} {indexer : Indexer} {protocol : Protocol}

/-- A release that is read is a normalized one, with the flags that the report sets and the titles
that it tells. -/
theorem of_ofReport {r : Release} (read : ofReport name report indexer protocol = .ok r) :
    ∃ described : Release, described.normalize = r ∧
      described.title = textOf (report.field "title") ∧
      described.subTitle = " ".intercalate (textsOf (report.field "episode_title")) ∧
      (described.proper, described.repack) =
        editionFlags name (textOf (report.field "title")) report := by
  simp only [ofReport, bind_eq_ok_iff] at read
  obtain ⟨year, -, season, -, episode, -, ranges, -, made⟩ := read
  exact ⟨_, Except.ok.inj made, rfl, rfl, rfl⟩

/-- A report is read exactly if all that is looked up in it can be. -/
theorem exists_ofReport_iff :
    (∃ r, ofReport name report indexer protocol = .ok r) ↔ IsLegible report := by
  simp only [ofReport, bind_eq_ok_iff]
  constructor
  · rintro ⟨r, year, yearRead, season, seasonRead, episode, episodeRead, ranges, rangesRead, -⟩
    exact {
      year := (exists_firstNumber_iff _).1 ⟨year, yearRead⟩
      season := (exists_firstNumber_iff _).1 ⟨season, seasonRead⟩
      episode := (exists_firstNumber_iff _).1 ⟨episode, episodeRead⟩
      other := (exists_dynamicRanges_iff _).1 ⟨ranges, rangesRead⟩ }
  · intro legible
    obtain ⟨year, yearRead⟩ := (exists_firstNumber_iff _).2 legible.year
    obtain ⟨season, seasonRead⟩ := (exists_firstNumber_iff _).2 legible.season
    obtain ⟨episode, episodeRead⟩ := (exists_firstNumber_iff _).2 legible.episode
    obtain ⟨ranges, rangesRead⟩ := (exists_dynamicRanges_iff _).2 legible.other
    exact ⟨_, year, yearRead, season, seasonRead, episode, episodeRead, ranges, rangesRead, rfl⟩

/-! ## Flags -/

/-- A release that is read has the flags that the report sets and those that its titles announce. -/
theorem flags_of_ofReport {r : Release} (read : ofReport name report indexer protocol = .ok r) :
    let title := textOf (report.field "title")
    let subTitle := " ".intercalate (textsOf (report.field "episode_title"))
    let flags := editionFlags name title report
    r.proper = (flags.1 || (Edition.announcedBy .proper title || Edition.announcedBy .proper subTitle)) ∧
      r.repack =
        (flags.2 || (Edition.announcedBy .repack title || Edition.announcedBy .repack subTitle)) := by
  obtain ⟨described, rfl, title, subTitle, flags⟩ := of_ofReport read
  rw [← title, ← subTitle]
  rw [← title] at flags
  simp only [← flags]
  exact ⟨rfl, rfl⟩

/-- A report without an edition marker is read exactly if all that is looked up in it can be, and
then both flags are clear exactly if no run of markers ends the title or the episode title. -/
theorem ofReport_unmarked (name : String) (report : Value) (indexer : Indexer) (protocol : Protocol)
    (other : (report.field "other").entries.any (Datum.isText "Proper") = false)
    (count : (report.field "proper_count").isTruthy = false) :
    ((∃ r, ofReport name report indexer protocol = .ok r) ↔ IsLegible report) ∧
      ∀ r, ofReport name report indexer protocol = .ok r →
        (r.proper = false ∧ r.repack = false ↔
          Edition.trailingText (textOf (report.field "title")) = "" ∧
            Edition.trailingText (" ".intercalate (textsOf (report.field "episode_title"))) = "") := by
  refine ⟨exists_ofReport_iff, fun r read => ?_⟩
  have unmarked : mentionsEdition report = false := by rw [mentionsEdition, other, count]; rfl
  obtain ⟨proper, repack⟩ := flags_of_ofReport read
  simp only [editionFlags_unmarked unmarked, Bool.false_or] at proper repack
  rw [proper, repack, Edition.trailingText_eq_empty_iff, Edition.trailingText_eq_empty_iff]
  simp only [Bool.or_eq_false_iff]
  tauto

/-- A marker word in front of others belongs to the title, and sets no flag. -/
theorem ofReport_unmarked_properWay :
    let report : Value := .record [("title", .text "The Proper Way"), ("year", .int 2020)]
    (report.field "other").entries.any (Datum.isText "Proper") = false ∧
      (report.field "proper_count").isTruthy = false ∧
      ∃ r, ofReport "The.Proper.Way.2020.1080p.WEB-DL-GRP" report {} .torrent = .ok r ∧
        r.proper = false ∧ r.repack = false := by
  intro report
  obtain ⟨reads, clear⟩ :=
    ofReport_unmarked "The.Proper.Way.2020.1080p.WEB-DL-GRP" report {} .torrent rfl rfl
  have legible : IsLegible report := by decide +kernel
  obtain ⟨r, read⟩ := reads.2 legible
  exact ⟨rfl, rfl, r, read, (clear r read).2 (by decide +kernel)⟩

/-- A title that is a marker word sets its flag, though the report mentions no marker. -/
theorem flagged_by_title :
    let report : Value := .record [("title", .text "Proper"), ("year", .int 2020)]
    (report.field "other").entries.any (Datum.isText "Proper") = false ∧
      (report.field "proper_count").isTruthy = false ∧
      (ofReport "Proper.2020.1080p.WEB-DL-GRP" report {} .torrent).map (·.proper) = .ok true := by
  decide +kernel

end Release

end ReleaseHistory
