/-
# ReleaseHistory.Proofs.Pipeline -- evaluating, then recording, delivers nothing twice

A pipeline takes new releases one after the other: it evaluates each with the same
checks and records it, with the statuses of its actions, only if it was accepted.  A
call that fails ends the work on its release.  `Checks.trail` lists all databases that a
pipeline passes through, one before each transaction and the last.

Two releases *clash* under the checks if one repeats the other within a filter, or if
both deliver the same unit of a series and units are delivered once.

* Clashing is symmetric, so that comparing each candidate with what came before is
  enough (`Clash.symm`).
* What an accepted release clashes with was not delivered (`evaluate_accepted`).
* While a release is recorded only that release becomes delivered, and what is compared
  of it is what was evaluated.

So no two delivered releases clash, in any database of the trail
(`deliversApart_of_mem_trail`).
-/
import ReleaseHistory.Proofs.Evaluation

namespace ReleaseHistory

set_option autoImplicit false

/-! ## The databases that a pipeline passes through -/

namespace Database

/-- The databases between the statuses that `recordStatuses` stores, with the first and the
last. -/
def statusTrail (moments : Nat → Moment) (r : Release) :
    Nat → Database → List ActionStatus → List Database
  | _, db, [] => [db]
  | k, db, s :: ss =>
      let written := (db.foundAt (moments k)).storeStatus (moments k).call (s.assign r)
      match written.outcome with
      | .error _ => [db, written.database]
      | .ok _ => db :: statusTrail moments r (k + 1) written.database ss

/-- The databases that `record` passes through. -/
def recordTrail (db : Database) (moments : Nat → Moment) (r : Release) (ss : List ActionStatus) :
    List Database :=
  let db := db.foundAt (moments 0)
  if r.id = 0 then
    let written := db.store (moments 0).call r
    match written.outcome with
    | .error _ => [db, written.database]
    | .ok _ => db :: statusTrail moments written.subject 1 written.database ss
  else statusTrail moments r 1 db ss

theorem getLast?_statusTrail (moments : Nat → Moment) (r : Release) (k : Nat) (db : Database)
    (ss : List ActionStatus) :
    (statusTrail moments r k db ss).getLast? = some (recordStatuses moments r k db ss).2.2 := by
  induction ss generalizing k db with
  | nil => rfl
  | cons s ss ih =>
      simp only [statusTrail, recordStatuses]
      cases ((db.foundAt (moments k)).storeStatus (moments k).call (s.assign r)).outcome with
      | error f => rfl
      | ok id =>
          simp only [List.getLast?_cons, ih, Option.getD_some]

theorem attach_database (db : Database) (moments : Nat → Moment) (r : Release)
    (ss : List ActionStatus) :
    (db.attach moments r ss).database = (recordStatuses moments r 1 db ss).2.2 := by
  unfold attach
  split <;> simp_all

/-- The trail of a recording ends with the database that it leaves. -/
theorem getLast?_recordTrail (db : Database) (moments : Nat → Moment) (r : Release)
    (ss : List ActionStatus) :
    (db.recordTrail moments r ss).getLast? = some (db.record moments r ss).database := by
  unfold recordTrail record
  simp only
  split
  · cases ((db.foundAt (moments 0)).store (moments 0).call r).outcome with
    | error f => rfl
    | ok k =>
        simp only [List.getLast?_cons, getLast?_statusTrail, attach_database, Option.getD_some]
  · rw [getLast?_statusTrail, attach_database]

end Database

/-- A new release, the statuses of the actions on it, the time at which it is evaluated, and
what each transaction meets that records it. -/
structure Job where
  release : Release
  statuses : List ActionStatus
  evaluated : DateTime
  recorded : Nat → Moment
  new : release.id = 0

namespace Checks

/-- One release is evaluated and, if it was accepted, recorded. -/
def process (k : Checks) (db : Database) (j : Job) : Database :=
  let e := db.evaluate j.evaluated k j.release
  match e.outcome with
  | .error _ => e.database
  | .ok v =>
      if v.accepted then (e.database.record j.recorded e.release j.statuses).database else e.database

/-- The databases that `process` passes through. -/
def jobTrail (k : Checks) (db : Database) (j : Job) : List Database :=
  let e := db.evaluate j.evaluated k j.release
  match e.outcome with
  | .error _ => [db, e.database]
  | .ok v =>
      if v.accepted then db :: e.database.recordTrail j.recorded e.release j.statuses
      else [db, e.database]

/-- The databases that a pipeline passes through. -/
def trail (k : Checks) : Database → List Job → List Database
  | db, [] => [db]
  | db, j :: js => k.jobTrail db j ++ k.trail (k.process db j) js

theorem getLast?_jobTrail (k : Checks) (db : Database) (j : Job) :
    (k.jobTrail db j).getLast? = some (k.process db j) := by
  unfold jobTrail process
  obtain ⟨outcome, r, after⟩ := db.evaluate j.evaluated k j.release
  cases outcome with
  | error f => rfl
  | ok v =>
      cases accepted : v.accepted with
      | false => simp only [accepted, Bool.false_eq_true, if_false]; rfl
      | true =>
          simp only [accepted, if_true, List.getLast?_cons, Database.getLast?_recordTrail,
            Option.getD_some]

/-- The trail of a pipeline ends with the database that its releases leave one after the
other. -/
theorem getLast?_trail (k : Checks) (db : Database) (js : List Job) :
    (k.trail db js).getLast? = some (js.foldl k.process db) := by
  induction js generalizing db with
  | nil => rfl
  | cons j js ih =>
      rw [trail, List.getLast?_append, ih]
      rfl

end Checks

/-! ## Clashes -/

/-- One release repeats the other within a filter, or both deliver the same unit of a
series and units are delivered once. -/
def Checks.Clash (k : Checks) (a b : Release) : Prop :=
  (∃ p, k.profile = some p ∧ a.filterId = b.filterId ∧
    p.sameRelease a.projection b.projection = true) ∨
  (k.smartEpisode = true ∧ k.allowReacquire = false ∧ a.projection.title = b.projection.title ∧
    ∃ u, a.airing.unit? = some u ∧ b.airing.unit? = some u)

theorem Dimension.agrees_comm (d : Dimension) (a b : Projection) : d.agrees a b = d.agrees b a := by
  cases d <;> exact Bool.beq_comm

theorem Switches.sameRelease_comm (s : Switches) (a b : Projection) :
    s.sameRelease a b = s.sameRelease b a := by
  unfold Switches.sameRelease
  split
  · exact Bool.beq_comm
  · simp only [Dimension.agrees_comm _ a b]

theorem Checks.Clash.symm {k : Checks} {a b : Release} : k.Clash a b → k.Clash b a
  | .inl ⟨p, used, sameFilter, same⟩ => .inl ⟨p, used, sameFilter.symm, p.sameRelease_comm _ _ ▸ same⟩
  | .inr ⟨smart, once, sameTitle, u, left, right⟩ => .inr ⟨smart, once, sameTitle.symm, u, right, left⟩

/-- What the filter made of a release is not compared. -/
theorem Checks.clash_filterStatus (k : Checks) (r prior : Release) (f : FilterStatus) :
    k.Clash { r with filterStatus := f } prior ↔ k.Clash r prior := Iff.rfl

namespace Ledger

/-- The release clashes with nothing that was delivered under another id. -/
def Alone (l : Ledger) (k : Checks) (id : Int) (r : Release) : Prop :=
  ∀ other prior, l.release? other = some prior → other ≠ id → l.Delivered other → ¬k.Clash r prior

/-- No two delivered releases clash. -/
def Apart (l : Ledger) (k : Checks) : Prop :=
  ∀ id r, l.release? id = some r → l.Delivered id → l.Alone k id r

end Ledger

/-! ## Evaluation -/

theorem Release.id_normalize (r : Release) : r.normalize.id = r.id := by
  simp only [normalize]

/-- Deliveries are looked up by the title that is compared. -/
theorem Release.projection_title (r : Release) :
    r.projection.title = Text.canonical (Edition.titleText r.airing.title) := rfl

/-- A release whose numbers name a unit covers it. -/
theorem AiringUnit.covers_of_unit? {r : Release} {row : StoredRelease} {u : AiringUnit}
    (written : r.KeptAs row) (named : r.airing.unit? = some u) : u.covers row = true := by
  have names : r.airing.NamesUnit := by
    by_contra nothing
    rw [Airing.unit?_eq_none_iff.2 nothing] at named
    cases named
  refine (Airing.covers_iff_isMetBy named written).2 ?_
  rcases names with episode | season | daily
  · exact .inl ⟨episode, rfl, rfl⟩
  · exact .inr (.inl ⟨season, rfl, season.2⟩)
  · exact .inr (.inr ⟨daily, rfl, rfl, rfl⟩)

namespace Database

variable {db : Database} {l : Ledger} {ts : Tables} {k : Checks} {r : Release}

/-- Where a download is allowed, the unit was not delivered before, unless it may be
again. -/
theorem of_mayDownload {c : Call} {a : Airing} {again : Bool}
    (allowed : (db.mayDownload c a again).1 = .ok true) :
    ∃ u ts, a.unit? = some u ∧ db.tables = some ts ∧
      (again = false → ts.deliveries (Text.canonical (Edition.titleText a.title)) u = 0) := by
  have titled : Text.canonical (Edition.titleText a.title) ≠ "" := by
    intro untitled
    rw [mayDownload_untitled untitled] at allowed
    cases allowed
  cases named : a.unit? with
  | none =>
      rw [mayDownload_of_unit?_eq_none titled named] at allowed
      cases allowed
  | some u =>
      obtain ⟨-, ts, found, -, counted⟩ := (mayDownload_ok_iff titled named).1 allowed
      exact ⟨u, ts, rfl, found, fun once => by simpa [once] using counted⟩

/-- What an accepted release clashes with was not delivered. -/
theorem evaluate_accepted {clock : DateTime} {v : Verdict} (found : db.tables = some ts)
    (faithful : l.Faithful ts) (new : r.id = 0) (given : (db.evaluate clock k r).outcome = .ok v)
    (accepted : v.accepted = true) {id : Int} {prior : Release} (entered : l.release? id = some prior)
    (delivered : l.Delivered id) : ¬k.Clash r.normalize prior := by
  obtain ⟨-, unrepeated, allowed⟩ := of_accepted given accepted
  rintro (⟨p, used, sameFilter, same⟩ | ⟨smart, once, sameTitle, u, named, named'⟩)
  · obtain ⟨-, -, -, -, hit⟩ :=
      (faithful.isDuplicate_eq_ok_iff found).1 ((Checks.detects_of_profile used).1 unrepeated)
    have apart : r.normalize.id ≠ 0 → id ≠ r.normalize.id := by
      intro old
      exact absurd ((Release.id_normalize r).trans new) old
    have repeated : l.Repeats p.toSwitches r.normalize :=
      ⟨id, prior, entered, sameFilter.symm, apart, delivered, same⟩
    exact Bool.false_ne_true (hit.2 repeated)
  · obtain ⟨u', us, named'', found', counted⟩ := of_mayDownload ((Checks.allows_of_smart smart).1 allowed)
    obtain rfl := Option.some.inj (found.symm.trans found')
    obtain rfl := Option.some.inj (named.symm.trans named'')
    obtain ⟨row, -, written, -⟩ := faithful.record entered
    have met : r.normalize.airing.IsMetBy prior :=
      (Airing.covers_iff_isMetBy named written).1 (AiringUnit.covers_of_unit? written named')
    rw [Release.projection_title] at sameTitle
    exact (faithful.deliveries_eq_zero_iff named).1 (counted once)
      ⟨id, prior, entered, delivered, sameTitle.symm, met⟩

end Database

/-! ## Recording -/

namespace Ledger

variable {l : Ledger} {k : Checks} {held : Int → Bool}

/-- Only the release that is kept is entered. -/
theorem release?_of_update {kept : Option Release} {logged : Option ActionStatus} {id : Int}
    {r : Release} (other : ∀ new, kept = some new → id ≠ new.id)
    (entered : (l.update kept logged held).release? id = some r) : l.release? id = some r := by
  have none : kept.filter (·.id == id) = none := by
    rw [Option.filter_eq_none_iff]
    intro new given own
    exact other new given (beq_iff_eq.1 own).symm
  rw [release?_update, none] at entered
  split at entered
  · exact entered
  · cases entered

/-- Only the release of a new status can become delivered. -/
theorem delivered_of_update {kept : Option Release} {logged : Option ActionStatus} {id : Int}
    (other : ∀ s, logged = some s → id ≠ s.releaseId)
    (delivered : (l.update kept logged held).Delivered id) : l.Delivered id := by
  obtain ⟨s, entered, approved⟩ := delivered
  rw [log_update] at entered
  split at entered
  · rcases List.mem_append.1 entered with new | old
    · obtain ⟨given, own⟩ := Option.filter_eq_some_iff.1 (Option.mem_toList.1 new)
      exact absurd (beq_iff_eq.1 own).symm (other s given)
    · exact ⟨s, old, approved⟩
  · cases entered

/-- A status of a release that clashes with nothing keeps the delivered releases apart. -/
theorem apart_logs (held : Int → Bool) (apart : l.Apart k) {s : ActionStatus}
    (alone : ∀ r, l.release? s.releaseId = some r → l.Alone k s.releaseId r) :
    (l.update none (some s) held).Apart k ∧
      ∀ r, (l.update none (some s) held).release? s.releaseId = some r →
        (l.update none (some s) held).Alone k s.releaseId r := by
  have before {id : Int} (other : id ≠ s.releaseId)
      (delivered : (l.update none (some s) held).Delivered id) : l.Delivered id :=
    delivered_of_update (fun _ given => Option.some.inj given ▸ other) delivered
  have old {id : Int} {r : Release} (entered : (l.update none (some s) held).release? id = some r) :
      l.release? id = some r :=
    release?_of_update (fun _ given => by cases given) entered
  have still : ∀ r, (l.update none (some s) held).release? s.releaseId = some r →
      (l.update none (some s) held).Alone k s.releaseId r := by
    intro r entered other prior entered' differ delivered
    exact alone r (old entered) other prior (old entered') differ (before differ delivered)
  refine ⟨fun id r entered delivered => ?_, still⟩
  by_cases own : id = s.releaseId
  · subst own
    exact still r entered
  · intro other prior entered' differ delivered'
    by_cases owns : other = s.releaseId
    · subst owns
      intro clash
      exact alone prior (old entered') id r (old entered) own (before own delivered) clash.symm
    · exact apart id r (old entered) (before own delivered) other prior (old entered') differ
        (before owns delivered')

/-- A new release is not delivered yet, so that it keeps the delivered ones apart; it
clashes with nothing delivered if it did not before it was kept. -/
theorem apart_keeps (held : Int → Bool) (apart : l.Apart k) {kept : Release} (fresh : ¬l.Delivered kept.id)
    (alone : ∀ id prior, l.release? id = some prior → l.Delivered id → ¬k.Clash kept prior) :
    (l.update (some kept) none held).Apart k ∧
      ∀ r, (l.update (some kept) none held).release? kept.id = some r →
        (l.update (some kept) none held).Alone k kept.id r := by
  have before {id : Int} (delivered : (l.update (some kept) none held).Delivered id) :
      l.Delivered id :=
    delivered_of_update (fun _ given => by cases given) delivered
  have old {id : Int} {r : Release} (entered : (l.update (some kept) none held).release? id = some r)
      (other : id ≠ kept.id) : l.release? id = some r :=
    release?_of_update (fun _ given => Option.some.inj given ▸ other) entered
  constructor
  · intro id r entered delivered other prior entered' differ delivered'
    have apart_kept {id : Int} (delivered : l.Delivered id) : id ≠ kept.id := by
      rintro rfl
      exact fresh delivered
    exact apart id r (old entered (apart_kept (before delivered))) (before delivered) other prior
      (old entered' (apart_kept (before delivered'))) differ (before delivered')
  · intro r entered other prior entered' differ delivered
    have own : (some kept).filter (·.id == kept.id) = some kept := by simp [Option.filter_some]
    rw [release?_update, own] at entered
    split at entered
    · obtain rfl := Option.some.inj entered
      exact alone other prior (old entered' differ) (before delivered)
    · cases entered

end Ledger

/-- A release that is not held was not delivered. -/
theorem Ledger.Faithful.not_delivered {l : Ledger} {ts : Tables} (faithful : l.Faithful ts) {id : Int}
    (free : ts.releases.contains id = false) : ¬l.Delivered id := by
  intro delivered
  obtain ⟨row, held, owner, -⟩ := Tables.hasStatus_iff.1 (faithful.isDelivered_iff.2 delivered)
  have present := faithful.owned row held
  rw [owner, free] at present
  cases present

/-- The tables of the database have the records of a ledger whose delivered releases do not
clash. -/
def Database.KeepsApart (db : Database) (k : Checks) : Prop :=
  ∃ (ts : Tables) (l : Ledger), db.tables = some ts ∧ l.Faithful ts ∧ l.Apart k

namespace Database

variable {k : Checks} {moments : Nat → Moment}

/-- Statuses of a release that clashes with nothing delivered keep the delivered releases
apart. -/
theorem keepsApart_of_mem_statusTrail {r : Release} {n : Nat} {ss : List ActionStatus}
    {db db' : Database} {ts : Tables} {l : Ledger} (found : db.tables = some ts) (faithful : l.Faithful ts)
    (apart : l.Apart k) (alone : ∀ r', l.release? r.id = some r' → l.Alone k r.id r')
    (visited : db' ∈ statusTrail moments r n db ss) : db'.KeepsApart k := by
  induction ss generalizing n db ts l with
  | nil =>
      obtain rfl := List.mem_singleton.1 visited
      exact ⟨ts, l, found, faithful, apart⟩
  | cons s ss ih =>
      have here : db.KeepsApart k := ⟨ts, l, found, faithful, apart⟩
      have found' : (db.foundAt (moments n)).tables = some ts := found
      have here' : (db.foundAt (moments n)).KeepsApart k := ⟨ts, l, found', faithful, apart⟩
      obtain ⟨f, failed, same⟩ | ⟨logged, row, ran, ⟨t, id, made⟩, written, owned, free⟩ :=
        storeStatus_cases found' (moments n).call (s.assign r)
      · simp only [statusTrail, failed, same, List.mem_cons, List.not_mem_nil, or_false] at visited
        rcases visited with rfl | rfl
        · exact here
        · exact here'
      · simp only [statusTrail, ran, List.mem_cons] at visited
        rcases visited with rfl | visited
        · exact here
        · have owner : logged.releaseId = r.id := by rw [made]; rfl
          rw [← owner] at alone
          obtain ⟨apart', alone'⟩ := Ledger.apart_logs ts.releases.contains apart alone
          rw [owner] at alone'
          exact ih rfl (faithful.step (.logs written owned free)) apart' alone' visited

/-- Recording a new release that clashes with nothing delivered keeps the delivered releases
apart. -/
theorem keepsApart_of_mem_recordTrail {db db' : Database} {ts : Tables} {l : Ledger} {r : Release}
    {ss : List ActionStatus} (found : db.tables = some ts) (faithful : l.Faithful ts)
    (apart : l.Apart k) (new : r.id = 0)
    (alone : ∀ id prior, l.release? id = some prior → l.Delivered id → ¬k.Clash r prior)
    (visited : db' ∈ db.recordTrail moments r ss) : db'.KeepsApart k := by
  have found' : (db.foundAt (moments 0)).tables = some ts := found
  have here : (db.foundAt (moments 0)).KeepsApart k := ⟨ts, l, found', faithful, apart⟩
  rw [recordTrail, if_pos new] at visited
  obtain ⟨f, failed, same⟩ | ⟨kept, row, ran, ⟨t, id, made⟩, written, free, fits⟩ :=
    store_cases found' (moments 0).call r
  · simp only [failed, same, List.mem_cons, List.not_mem_nil, or_false, or_self] at visited
    exact visited ▸ here
  · simp only [ran, List.mem_cons] at visited
    rcases visited with rfl | visited
    · exact here
    · have alone' : ∀ id prior, l.release? id = some prior → l.Delivered id → ¬k.Clash kept prior := by
        rw [made]
        exact alone
      obtain ⟨apart', still⟩ := Ledger.apart_keeps (ts.releases.insert kept.id row).contains apart
        (faithful.not_delivered free) alone'
      exact keepsApart_of_mem_statusTrail rfl (faithful.step (.keeps written free fits)) apart' still
        visited

end Database

/-! ## Pipelines -/

/-- No two delivered releases of one filter match under the profile, and if units are
delivered once, no two delivered releases have the same title and the same unit. -/
def Tables.DeliversApart (ts : Tables) (k : Checks) : Prop :=
  ∀ a ∈ ts.releases.rows, ∀ b ∈ ts.releases.rows, a.1 ≠ b.1 →
    ts.isDelivered a.1 = true → ts.isDelivered b.1 = true →
    ∃ left right, a.2.toRelease a.1 [] = .ok left ∧ b.2.toRelease b.1 [] = .ok right ∧
      (∀ p, k.profile = some p → left.filterId = right.filterId →
        p.sameRelease left.projection right.projection = false) ∧
      (k.smartEpisode = true → k.allowReacquire = false →
        left.projection.title = right.projection.title →
          ∀ u, left.airing.unit? = some u → right.airing.unit? ≠ some u)

namespace Checks

variable {k : Checks}

/-- One release keeps the delivered releases apart, at every point of its work. -/
theorem keepsApart_of_mem_jobTrail {db db' : Database} {j : Job} (apart : db.KeepsApart k)
    (visited : db' ∈ k.jobTrail db j) : db'.KeepsApart k := by
  obtain ⟨ts, l, found, faithful, distinct⟩ := apart
  have here : db.KeepsApart k := ⟨ts, l, found, faithful, distinct⟩
  unfold jobTrail at visited
  simp only [Database.evaluate_database] at visited
  split at visited
  · simp only [List.mem_cons, List.not_mem_nil, or_false, or_self] at visited
    exact visited ▸ here
  · rename_i v given
    split at visited
    · rename_i accepted
      rcases List.mem_cons.1 visited with rfl | visited
      · exact here
      · rw [(Database.of_accepted given accepted).1] at visited
        have new : ({ j.release.normalize with filterStatus := .approved } : Release).id = 0 := by
          simp only [Release.id_normalize, j.new]
        refine Database.keepsApart_of_mem_recordTrail found faithful distinct new ?_ visited
        intro id prior entered delivered
        rw [clash_filterStatus]
        exact Database.evaluate_accepted found faithful j.new given accepted entered delivered
    · simp only [List.mem_cons, List.not_mem_nil, or_false, or_self] at visited
      exact visited ▸ here

/-- What the work on each release keeps holds along the whole pipeline. -/
theorem keepsApart_of_mem_trail {js : List Job} {db db' : Database} (apart : db.KeepsApart k)
    (visited : db' ∈ k.trail db js) : db'.KeepsApart k := by
  induction js generalizing db with
  | nil =>
      obtain rfl := List.mem_singleton.1 visited
      exact apart
  | cons j js ih =>
      rcases List.mem_append.1 visited with now | later
      · exact keepsApart_of_mem_jobTrail apart now
      · have last : k.process db j ∈ k.jobTrail db j := List.mem_of_getLast? (k.getLast?_jobTrail db j)
        exact ih (keepsApart_of_mem_jobTrail apart last) later

theorem keepsApart_initialised : Database.initialised.KeepsApart k :=
  ⟨{}, .empty, rfl, .initially, fun _ _ entered => by cases entered⟩

/-- A pipeline keeps the delivered releases apart in every database that it passes
through. -/
theorem deliversApart_of_mem_trail (k : Checks) (js : List Job) {db : Database}
    (visited : db ∈ k.trail .initialised js) : ∃ ts, db.tables = some ts ∧ ts.DeliversApart k := by
  obtain ⟨ts, l, found, faithful, apart⟩ := keepsApart_of_mem_trail keepsApart_initialised visited
  refine ⟨ts, found, ?_⟩
  intro a heldA b heldB differ deliveredA deliveredB
  obtain ⟨left, enteredA, writtenA, -⟩ := faithful.entry heldA
  obtain ⟨right, enteredB, writtenB, -⟩ := faithful.entry heldB
  have distinct : ¬k.Clash left right :=
    apart a.1 left enteredA (faithful.isDelivered_iff.1 deliveredA) b.1 right enteredB differ.symm
      (faithful.isDelivered_iff.1 deliveredB)
  refine ⟨left.asRead a.1 a.2 [], right.asRead b.1 b.2 [], writtenA.toRelease a.1 [],
    writtenB.toRelease b.1 [], ?_, ?_⟩
  · intro p used sameFilter
    rw [Release.projection_asRead, Release.projection_asRead]
    exact Bool.eq_false_iff.2 fun same => distinct (.inl ⟨p, used, sameFilter, same⟩)
  · intro smart once sameTitle u named named'
    rw [Release.projection_asRead, Release.projection_asRead] at sameTitle
    exact distinct (.inr ⟨smart, once, sameTitle, u, named, named'⟩)

end Checks

/-! ## A short pipeline -/

/-- An episode of the first season for a filter, with one approved status. -/
def Job.episode (filterId episode : Int) : Job where
  release := { title := "A", season := 1, episode, filterId }
  statuses := [{}]
  evaluated := Call.inMay.clock
  recorded _ := { clock := Call.inMay.clock }
  new := rfl

/-- Titles are compared within a filter, and units are delivered once. -/
def Checks.titlesAndUnits : Checks :=
  { profile := some { toSwitches := { title := true } }, smartEpisode := true }

/-- The second release has the title of the first, the third its unit; the fourth has
another filter and another unit. -/
def Job.four : List Job := [.episode 1 1, .episode 1 2, .episode 2 1, .episode 2 2]

namespace Checks

/-- Of the four releases the first and the last are delivered. -/
theorem deliversApart_four :
    ∃ db ∈ titlesAndUnits.trail .initialised Job.four, ∃ ts : Tables, db.tables = some ts ∧
      (ts.releases.rows.map fun row => (row.1, row.2.filterId, ts.isDelivered row.1)) =
        [(1, 1, true), (2, 2, true)] ∧
      ts.DeliversApart titlesAndUnits := by
  have last := List.mem_of_getLast? (titlesAndUnits.getLast?_trail .initialised Job.four)
  obtain ⟨ts, found, apart⟩ := deliversApart_of_mem_trail titlesAndUnits Job.four last
  refine ⟨_, last, ts, found, ?_, apart⟩
  have rows : (Job.four.foldl titlesAndUnits.process .initialised).tables.map (fun ts =>
      ts.releases.rows.map fun row => (row.1, row.2.filterId, ts.isDelivered row.1)) =
      some [(1, 1, true), (2, 2, true)] := by decide +kernel
  rw [found] at rows
  exact Option.some.inj rows

end Checks

end ReleaseHistory
