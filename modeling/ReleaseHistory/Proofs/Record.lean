/-
# ReleaseHistory.Proofs.Record -- a record tells what was kept

`Release.KeptAs` and `ActionStatus.KeptAs` relate a release or a status to the record
that a write makes of it.

* The columns of such a record are the fields of the release (`KeptAs.announcement` and
  the lemmas below it); the column of the canonical title is the title by which the
  release is compared.
* Reading the record gives the release back, up to its statuses, its id, and its
  timestamp, which is read in UTC (`KeptAs.toRelease`).
* So what is compared of the release that is read is what was compared of the one that
  was kept (`projection_asRead`).
-/
import ReleaseHistory.Proofs.Calendar
import ReleaseHistory.Proofs.TextColumn
import ReleaseHistory.Store.Record

namespace ReleaseHistory

set_option autoImplicit false

/-! ## Reading columns -/

theorem readTexts_encode (texts : List String) : readTexts (Json.TextList.encode texts) = .ok texts := by
  rw [readTexts, Json.TextList.decode_encode]
  rfl

theorem readLabel_of_ofName? {α : Type} {kind : LabelKind} {ofName? : String → Option α} {name : String}
    {a : α} (known : ofName? name = some a) : readLabel kind ofName? name = .ok a := by
  simp only [readLabel, known]

/-! ## Releases -/

/-- The record is what is kept of a release. -/
def Release.KeptAs (r : Release) (row : StoredRelease) : Prop :=
  ∃ t, r.timestamp = some t ∧ StoredRelease.ofRelease r t = .ok row

/-- The release of a record under an id, with statuses. -/
def Release.asRead (r : Release) (id : Int) (row : StoredRelease) (statuses : List ActionStatus) :
    Release :=
  { r with
    normalizedTitle := row.normalizedTitle
    timestamp := some row.timestamp.assumeUtc
    actionStatus := statuses
    id }

theorem Release.projection_asRead (r : Release) (id : Int) (row : StoredRelease)
    (statuses : List ActionStatus) : (r.asRead id row statuses).projection = r.projection := rfl

theorem StoredRelease.ofRelease_eq_ok_iff {r : Release} {t : DateTime} {row : StoredRelease} :
    StoredRelease.ofRelease r t = .ok row ↔
      ∃ u, t.toNaiveUtc? = some u ∧
        row = { toAnnouncement := r.toAnnouncement
                codecText := Json.TextList.encode r.codec
                hdrText := Json.TextList.encode r.hdr
                audioText := Json.TextList.encode r.audio
                tagsText := Json.TextList.encode r.tags
                rejectionsText := Json.TextList.encode r.rejections
                protocolName := r.protocol.name
                implementationName := r.implementation.name
                filterStatusName := r.filterStatus.name
                normalizedTitle := r.projection.title
                timestamp := u } := by
  unfold StoredRelease.ofRelease
  cases t.toNaiveUtc? with
  | none => simp
  | some u => simp [eq_comm]

namespace Release.KeptAs

variable {r : Release} {row : StoredRelease}

theorem announcement (kept : r.KeptAs row) : row.toAnnouncement = r.toAnnouncement := by
  obtain ⟨t, -, written⟩ := kept
  obtain ⟨u, -, rfl⟩ := StoredRelease.ofRelease_eq_ok_iff.1 written
  rfl

theorem normalizedTitle (kept : r.KeptAs row) : row.normalizedTitle = r.projection.title := by
  obtain ⟨t, -, written⟩ := kept
  obtain ⟨u, -, rfl⟩ := StoredRelease.ofRelease_eq_ok_iff.1 written
  rfl

/-- A record has its timestamp in UTC, without an offset. -/
theorem timestamp (kept : r.KeptAs row) :
    row.timestamp.offset = none ∧ ∃ t, r.timestamp = some t ∧ row.timestamp.clock = t.instant := by
  obtain ⟨t, given, written⟩ := kept
  obtain ⟨u, moved, rfl⟩ := StoredRelease.ofRelease_eq_ok_iff.1 written
  obtain ⟨naive, shown⟩ := DateTime.of_toNaiveUtc?_eq_some moved
  exact ⟨naive, t, given, shown⟩

/-- Reading a record gives the release back. -/
theorem toRelease (kept : r.KeptAs row) (id : Int) (statuses : List ActionStatus) :
    row.toRelease id statuses = .ok (r.asRead id row statuses) := by
  obtain ⟨t, -, written⟩ := kept
  obtain ⟨u, -, rfl⟩ := StoredRelease.ofRelease_eq_ok_iff.1 written
  simp only [StoredRelease.toRelease, readTexts_encode,
    readLabel_of_ofName? (FilterStatus.ofName?_name _), readLabel_of_ofName? (Protocol.ofName?_name _),
    readLabel_of_ofName? (Implementation.ofName?_name _)]
  rfl

end Release.KeptAs

/-! ## Action statuses -/

/-- The record is what is kept of a status. -/
def ActionStatus.KeptAs (s : ActionStatus) (row : StoredStatus) : Prop :=
  ∃ t, s.timestamp = some t ∧ StoredStatus.ofStatus s t = .ok row

theorem StoredStatus.ofStatus_eq_ok_iff {s : ActionStatus} {t : DateTime} {row : StoredStatus} :
    StoredStatus.ofStatus s t = .ok row ↔
      ∃ u, t.toNaiveUtc? = some u ∧
        row = { toAttempt := s.toAttempt
                statusName := s.status.name
                typeName := s.type.name
                rejectionsText := Json.TextList.encode s.rejections
                timestamp := u } := by
  unfold StoredStatus.ofStatus
  cases t.toNaiveUtc? with
  | none => simp
  | some u => simp [eq_comm]

theorem PushStatus.name_injective {a b : PushStatus} (same : a.name = b.name) : a = b := by
  have known : PushStatus.ofName? b.name = some a := same ▸ PushStatus.ofName?_name a
  exact Option.some.inj (known.symm.trans (PushStatus.ofName?_name b))

namespace ActionStatus.KeptAs

variable {s : ActionStatus} {row : StoredStatus}

theorem attempt (kept : s.KeptAs row) : row.toAttempt = s.toAttempt := by
  obtain ⟨t, -, written⟩ := kept
  obtain ⟨u, -, rfl⟩ := StoredStatus.ofStatus_eq_ok_iff.1 written
  rfl

theorem statusName (kept : s.KeptAs row) : row.statusName = s.status.name := by
  obtain ⟨t, -, written⟩ := kept
  obtain ⟨u, -, rfl⟩ := StoredStatus.ofStatus_eq_ok_iff.1 written
  rfl

/-- A record has its timestamp in UTC, without an offset. -/
theorem timestamp (kept : s.KeptAs row) :
    row.timestamp.offset = none ∧ ∃ t, s.timestamp = some t ∧ row.timestamp.clock = t.instant := by
  obtain ⟨t, given, written⟩ := kept
  obtain ⟨u, moved, rfl⟩ := StoredStatus.ofStatus_eq_ok_iff.1 written
  obtain ⟨naive, shown⟩ := DateTime.of_toNaiveUtc?_eq_some moved
  exact ⟨naive, t, given, shown⟩

/-- Reading a record gives the status back, with its timestamp in UTC. -/
theorem toStatus (kept : s.KeptAs row) (id : Int) :
    row.toStatus id = .ok { s with timestamp := some row.timestamp.assumeUtc, id } := by
  obtain ⟨t, -, written⟩ := kept
  obtain ⟨u, -, rfl⟩ := StoredStatus.ofStatus_eq_ok_iff.1 written
  simp only [StoredStatus.toStatus, readTexts_encode,
    readLabel_of_ofName? (PushStatus.ofName?_name _), readLabel_of_ofName? (ActionType.ofName?_name _)]
  rfl

end ActionStatus.KeptAs

end ReleaseHistory
