/-
# ReleaseHistory.Proofs.Instants -- in UTC points in time are compared as instants

To move a point in time to UTC is to ask at which date and time of day a clock in UTC shows its
instant, one without an offset (`DateTime.toNaiveUtc?_eq`) or one with offset zero (`toAwareUtc?_eq`).
So it fails exactly if the years 1 to 9999 have no such date, it may be done in two steps or twice
(`bind_ofClock?`), and the parts of what it finds are in the order of the instants.

Releases are kept in UTC.  Whatever the offsets with which they were announced, a purge looks at the
instants of the announcements, and a query compares and sorts by them (`Run.compares_instants`).
-/
import ReleaseHistory.Proofs.Paging
import ReleaseHistory.Proofs.Purge

namespace ReleaseHistory

set_option autoImplicit false

namespace DateTime

variable {t u : DateTime} {n : Int} {offset offset' : Option Int}

/-! ## Asking a clock in UTC -/

/-- A number of microseconds is on the calendar if some clock shows it. -/
theorem onCalendar_iff : OnCalendar n ↔ ∃ u : DateTime, u.clock = n := by
  constructor
  · intro fits
    cases found : ofClock? none n with
    | none => exact absurd fits (ofClock?_eq_none_iff.1 found)
    | some u => exact ⟨u, (ofClock?_eq_some_iff.1 found).2⟩
  · rintro ⟨u, rfl⟩
    exact u.onCalendar_clock

/-- Without an offset, or with offset zero, a clock shows the instant. -/
theorem instant_eq_clock (utc : t.offset.getD 0 = 0) : t.instant = t.clock := by
  rw [instant, utc, Int.sub_zero]

theorem toNaiveUtc?_eq (t : DateTime) : t.toNaiveUtc? = ofClock? none t.instant := by
  unfold toNaiveUtc?
  split
  · rename_i naive
    exact (ofClock?_eq_some_iff.2 ⟨naive, (instant_eq_clock (by rw [naive]; rfl)).symm⟩).symm
  · rfl

theorem toAwareUtc?_eq (t : DateTime) : t.toAwareUtc? = ofClock? (some 0) t.instant := by
  unfold toAwareUtc?
  split
  · rename_i naive
    have shown : t.instant = t.clock := instant_eq_clock (by rw [naive]; rfl)
    have found : ofClock? (some 0) t.instant = some { t with offset := some 0 } :=
      ofClock?_eq_some_iff.2 ⟨rfl, shown.symm⟩
    exact found.symm
  · rfl

theorem ofClock?_eq_none_iff_forall : ofClock? offset n = none ↔ ∀ u : DateTime, u.clock ≠ n := by
  rw [ofClock?_eq_none_iff, onCalendar_iff, not_exists]

/-- What a clock in UTC shows at an instant is at that instant. -/
theorem of_ofClock?_instant (utc : offset.getD 0 = 0) (found : ofClock? offset t.instant = some u) :
    u.offset = offset ∧ u.instant = t.instant := by
  obtain ⟨rfl, clock⟩ := ofClock?_eq_some_iff.1 found
  exact ⟨rfl, (instant_eq_clock utc).trans clock⟩

/-- Asking a clock in UTC first changes nothing. -/
theorem bind_ofClock? (utc : offset.getD 0 = 0) (offset' : Option Int) (n : Int) :
    ((ofClock? offset n).bind fun u => ofClock? offset' u.instant) = ofClock? offset' n := by
  cases found : ofClock? offset n with
  | none => exact (ofClock?_eq_none_iff.2 (ofClock?_eq_none_iff.1 found)).symm
  | some u =>
      obtain ⟨rfl, rfl⟩ := ofClock?_eq_some_iff.1 found
      rw [Option.bind_some, instant_eq_clock utc]

/-- In UTC the parts are in the order of the instants. -/
theorem fields_lt_iff_instant (left : t.offset.getD 0 = 0) (right : u.offset.getD 0 = 0) :
    t.fields < u.fields ↔ t.instant < u.instant := by
  rw [fields_lt_iff, instant_eq_clock left, instant_eq_clock right]

end DateTime

/-! ## Announcements -/

/-- The point in time at which the release under an id was announced, with the offset that it came
with. -/
def Run.announced? (run : Run) (id : Int) : Option DateTime := (run.ledger.release? id).bind (·.timestamp)

/-- A record is kept at the instant of its announcement. -/
theorem Run.exists_announced {run : Run} {ts : Tables} (faithful : run.ledger.Faithful ts)
    {row : Int × StoredRelease} (held : row ∈ ts.releases.rows) :
    ∃ x, run.announced? row.1 = some x ∧ row.2.timestamp.instant = x.instant := by
  obtain ⟨r, entered, written, -⟩ := faithful.entry held
  obtain ⟨naive, x, given, clock⟩ := written.timestamp
  refine ⟨x, by rw [announced?, entered, Option.bind_some, given], ?_⟩
  rw [DateTime.instant_eq_clock (by rw [naive]; rfl), clock]

/-- Points in time in UTC are compared as their instants. -/
theorem SortOrder.compareBy_timestamp {a b : Row} (left : a.2.timestamp.offset = none)
    (right : b.2.timestamp.offset = none) :
    compareBy .timestamp a b = compare a.2.timestamp.instant b.2.timestamp.instant := by
  have forth : compareBy .timestamp a b = .lt ↔
      compare a.2.timestamp.instant b.2.timestamp.instant = .lt :=
    (compareBy_eq_lt_iff left right).trans Std.compare_eq_lt.symm
  have back : (compareBy .timestamp a b).swap = .lt ↔
      (compare a.2.timestamp.instant b.2.timestamp.instant).swap = .lt := by
    rw [← Std.OrientedCmp.eq_swap, ← Std.OrientedCmp.eq_swap]
    exact (compareBy_eq_lt_iff right left).trans Std.compare_eq_lt.symm
  generalize compareBy .timestamp a b = first at forth back ⊢
  generalize compare a.2.timestamp.instant b.2.timestamp.instant = second at forth back ⊢
  cases first <;> cases second <;> simp_all

/-- A purge looks at the instants of the records, next to its other conditions. -/
theorem Purge.selects_iff_age {p : Purge} {c : Call} {cutoff : Option DateTime} {ts : Tables}
    {row : Int × StoredRelease} (exact : p.IsCutoff c cutoff) (utc : row.2.timestamp.offset = none) :
    p.selects cutoff ts row = true ↔
      (p.olderThanHours = 0 ∨ row.2.timestamp.instant < p.horizon c) ∧ p.selects none ts row = true := by
  have ageless : { p with olderThanHours := 0 }.IsCutoff c none := rfl
  have others : p.selects none ts row = true ↔ { p with olderThanHours := 0 }.Matches c ts row :=
    selects_iff_matches ageless utc
  rw [selects_iff_matches exact utc, others, Matches, Matches]
  simp only [true_or, true_and]

namespace Run

/-- One record comes before another by the instants at which the releases were announced, the later one
first if the order is falling, and by the greater id for the same instant. -/
def AnnouncedBefore (run : Run) (descending : Bool) (a b : SortOrder.Row) : Prop :=
  ∃ x y, run.announced? a.1 = some x ∧ run.announced? b.1 = some y ∧
    ((if descending then y.instant < x.instant else x.instant < y.instant) ∨
      x.instant = y.instant ∧ b.1 < a.1)

/-- To move a point in time to UTC fails exactly if the years 1 to 9999 do not have it there; what it
finds is at the same instant.  It may be done in two steps, and doing it twice changes nothing.  What
is found for two points in time is in the order of their instants, part by part.

So after every run, whatever the offsets of the announcements, a purge takes a release to be old enough
by the instant of its announcement, and a query compares and sorts by the instants. -/
theorem compares_instants :
    (∀ t : DateTime,
      (t.toNaiveUtc? = none ↔ ∀ u : DateTime, u.clock ≠ t.instant) ∧
      (t.toAwareUtc? = none ↔ ∀ u : DateTime, u.clock ≠ t.instant) ∧
      (∀ u, t.toNaiveUtc? = some u → u.offset = none ∧ u.instant = t.instant) ∧
      (∀ u, t.toAwareUtc? = some u → u.offset = some 0 ∧ u.instant = t.instant) ∧
      t.toNaiveUtc?.bind DateTime.toAwareUtc? = t.toAwareUtc? ∧
      t.toNaiveUtc?.bind DateTime.toNaiveUtc? = t.toNaiveUtc? ∧
      t.toAwareUtc?.bind DateTime.toAwareUtc? = t.toAwareUtc?) ∧
    (∀ x y u v : DateTime, x.toNaiveUtc? = some u → y.toNaiveUtc? = some v →
      (u.fields < v.fields ↔ x.instant < y.instant)) ∧
    ∀ run : Run, ∃ ts, run.database = { tables := some ts } ∧
      (∀ a ∈ ts.releases.rows, ∃ x, run.announced? a.1 = some x ∧
        (∀ (p : Purge) (c : Call) (cutoff : Option DateTime), 0 ≤ p.olderThanHours →
          p.cutoff? c = .ok cutoff →
          (p.selects cutoff ts a = true ↔
            (p.olderThanHours = 0 ∨ x.instant < p.horizon c) ∧ p.selects none ts a = true)) ∧
        ∀ b ∈ ts.releases.rows, ∀ y, run.announced? b.1 = some y →
          SortOrder.compareBy .timestamp a b = compare x.instant y.instant) ∧
      ∀ (q : Query) (descending : Bool),
        (SortOrder.sort [⟨.timestamp, descending⟩, ⟨.id, true⟩] (q.matching ts)).Pairwise
          (run.AnnouncedBefore descending) := by
  refine ⟨fun t => ?_, fun x y u v left right => ?_, fun run => ?_⟩
  · have aware : DateTime.toAwareUtc? = fun u => DateTime.ofClock? (some 0) u.instant :=
      funext DateTime.toAwareUtc?_eq
    have naive : DateTime.toNaiveUtc? = fun u => DateTime.ofClock? none u.instant :=
      funext DateTime.toNaiveUtc?_eq
    rw [aware, naive]
    exact ⟨DateTime.ofClock?_eq_none_iff_forall, DateTime.ofClock?_eq_none_iff_forall,
      fun u => DateTime.of_ofClock?_instant rfl, fun u => DateTime.of_ofClock?_instant rfl,
      DateTime.bind_ofClock? rfl _ _, DateTime.bind_ofClock? rfl _ _, DateTime.bind_ofClock? rfl _ _⟩
  · rw [DateTime.toNaiveUtc?_eq] at left right
    obtain ⟨naive, sameX⟩ := DateTime.of_ofClock?_instant rfl left
    obtain ⟨naive', sameY⟩ := DateTime.of_ofClock?_instant rfl right
    rw [← sameX, ← sameY]
    exact DateTime.fields_lt_iff_instant (by rw [naive]; rfl) (by rw [naive']; rfl)
  · obtain ⟨ts, database, faithful⟩ := run.faithful
    refine ⟨ts, database, fun a held => ?_, fun q descending => ?_⟩
    · obtain ⟨x, announced, instant⟩ := exists_announced faithful held
      refine ⟨x, announced, fun p c cutoff age given => ?_, fun b held' y announced' => ?_⟩
      · rw [← instant]
        exact Purge.selects_iff_age (Purge.isCutoff_of_cutoff? age given) (faithful.utc held)
      · obtain ⟨y', known, instant'⟩ := exists_announced faithful held'
        obtain rfl := Option.some.inj (announced'.symm.trans known)
        rw [SortOrder.compareBy_timestamp (faithful.utc held) (faithful.utc held'), instant, instant']
    · obtain ⟨members, sorted⟩ := Query.isListing_listing (q := q) faithful [⟨.timestamp, descending⟩]
      refine List.Pairwise.imp_of_mem ?_ sorted
      intro a b heldA heldB before
      obtain ⟨x, announced, instant⟩ := exists_announced faithful ((members a).1 heldA).1
      obtain ⟨y, announced', instant'⟩ := exists_announced faithful ((members b).1 heldB).1
      refine ⟨x, y, announced, announced', ?_⟩
      rw [← instant, ← instant']
      simp only [SortOrder.Before, SortClause.Less, SortColumn.Less] at before
      cases descending <;> simp at before ⊢ <;> omega

/-- Half an hour after midnight of the first of May, two hours ahead of UTC. -/
def ahead : DateTime :=
  ⟨Call.inMay.clock.date, 30 * microsPerMinute, some (.ofNat (2 * microsPerHour)), by decide⟩

/-- An hour before that midnight, without an offset. -/
def unmarked : DateTime := ⟨⟨2024, 4, 30, by decide⟩, 23 * microsPerHour, none, by decide⟩

/-- Two releases are kept, the first with the later date at the earlier instant. -/
def twoOffsets : Run :=
  [{ operation := .store { torrentName := "b", title := "B", timestamp := some unmarked }, call := .inMay },
    { operation := .store { torrentName := "a", title := "A", timestamp := some ahead }, call := .inMay }]

/-- The release with the later date is the older one: it is the one that is older than an hour at
midnight. -/
theorem compares_instants_twoOffsets :
    (∃ u v, ahead.toNaiveUtc? = some u ∧ unmarked.toNaiveUtc? = some v ∧ u.fields < v.fields) ∧
      ∃ ts cutoff, twoOffsets.database = { tables := some ts } ∧
        Purge.cutoff? { olderThanHours := 1 } .inMay = .ok cutoff ∧
        ∃ a ∈ ts.releases.rows, a.1 = 1 ∧ Purge.selects { olderThanHours := 1 } cutoff ts a = true := by
  obtain ⟨-, inOrder, kept⟩ := compares_instants
  constructor
  · obtain ⟨u, left⟩ : ∃ u, ahead.toNaiveUtc? = some u := Option.isSome_iff_exists.1 (by decide +kernel)
    obtain ⟨v, right⟩ : ∃ v, unmarked.toNaiveUtc? = some v := Option.isSome_iff_exists.1 rfl
    exact ⟨u, v, left, right, (inOrder _ _ u v left right).2 (by decide +kernel)⟩
  · obtain ⟨ts, database, rows, -⟩ := kept twoOffsets
    have ids : ts.releases.rows.map Prod.fst = [1, 2] := by
      have kept : twoOffsets.database.tables.map (·.releases.rows.map Prod.fst) = some [1, 2] := by
        decide +kernel
      rw [database] at kept
      exact Option.some.inj kept
    obtain ⟨a, held, first⟩ := List.mem_map.1 (ids ▸ List.mem_cons_self : 1 ∈ ts.releases.rows.map Prod.fst)
    obtain ⟨x, announced, old, -⟩ := rows a held
    have given : twoOffsets.announced? 1 = some ahead := by decide +kernel
    rw [first, given] at announced
    obtain rfl := Option.some.inj announced
    obtain ⟨cutoff, taken, -⟩ := Purge.exists_cutoff (p := { olderThanHours := 1 }) (c := .inMay)
      (by decide) fun _ => by decide +kernel
    exact ⟨ts, cutoff, database, taken, a, held, first,
      (old _ _ cutoff (by decide) taken).2 ⟨.inr (by decide +kernel), rfl⟩⟩

end Run

end ReleaseHistory
