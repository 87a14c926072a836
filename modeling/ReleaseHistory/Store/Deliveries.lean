/-
# ReleaseHistory.Store.Deliveries -- what was delivered before

A kept release is *delivered* when one of its action statuses is approved.

* `isDuplicate` asks whether a candidate repeats a delivered release of its
  filter under a profile.  Only releases with the candidate's canonical title, or
  with its name if the profile compares names, are compared, in ascending order
  of their ids and no further than the first match; the candidate itself is left
  out.
* `mayDownload` asks whether the unit of a series was not delivered before, or
  may be delivered again.  A lookup without a unit never allows a download.
-/
import ReleaseHistory.Episode
import ReleaseHistory.Profile.Dimension
import ReleaseHistory.Store.Status

namespace ReleaseHistory

set_option autoImplicit false

/-- Some action on the release was approved. -/
def Tables.isDelivered (ts : Tables) (releaseId : Int) : Bool :=
  ts.hasStatus releaseId [PushStatus.approved.name]

/-! ## Duplicates -/

/-- The first kept release that the candidate repeats, read one after the other. -/
def firstDuplicate (s : Switches) (candidate : Projection) :
    List (Int × StoredRelease) → Except Fault (Option Int)
  | [] => .ok none
  | (id, row) :: rows => do
      let prior ← row.toRelease id []
      if s.sameRelease candidate prior.projection then return some id
      else firstDuplicate s candidate rows

/-- The delivered releases that are compared with a candidate. -/
def Tables.priors (ts : Tables) (s : Switches) (r : Release) : List (Int × StoredRelease) :=
  ts.releases.rows.filter fun row =>
    row.2.filterId == r.filterId && ts.isDelivered row.1 &&
      (if s.comparesNames then row.2.torrentName == r.torrentName
        else row.2.normalizedTitle == r.projection.title) &&
      (r.id == 0 || row.1 != r.id)

/-- What keeps a candidate from being compared under a profile. -/
def Profile.objection? (p : Profile) (candidate : Projection) : Option ArgumentFault :=
  if !p.title && !p.comparesNames then some (.profileWithoutTitle p.name p.id)
  else if p.comparesNames && candidate.torrentName == "" then some .candidateWithoutName
  else if !p.comparesNames && candidate.title == "" then some .candidateWithoutTitle
  else none

/-- The candidate repeats a delivered release of its filter. -/
def Database.isDuplicate (db : Database) (c : Call) (p : Profile) (r : Release) :
    Except Fault Bool × Database :=
  match p.objection? r.projection with
  | some f => (.error (.invalidArgument f), db)
  | none =>
      let found := db.run c 1 do
        let ts ← Work.tables .release
        Work.carry [r.filterId, r.id]
        return ts.priors p.toSwitches r
      match found with
      | (.error f, db) => (.error f, db)
      | (.ok rows, db) => ((firstDuplicate p.toSwitches r.projection rows).map Option.isSome, db)

/-! ## Units of a series -/

namespace AiringUnit

/-- The kept release delivers the unit. -/
def covers (u : AiringUnit) (r : StoredRelease) : Bool :=
  match u with
  | .episode s e => r.season == s && r.episode == e
  | .season s => r.season == s && r.episode == 0
  | .daily y m d => r.year == y && r.month == m && r.day == d

/-- The whole numbers that name the unit. -/
def numbers : AiringUnit → List Int
  | .episode s e => [s, e]
  | .season s => [s]
  | .daily y m d => [y, m, d]

end AiringUnit

/-- The number of delivered releases with the canonical title and the unit. -/
def Tables.deliveries (ts : Tables) (title : String) (u : AiringUnit) : Nat :=
  ts.releases.rows.countP fun row =>
    row.2.normalizedTitle == title && ts.isDelivered row.1 && u.covers row.2

/-- The unit was not delivered before, or may be delivered again. -/
def Database.mayDownload (db : Database) (c : Call) (a : Airing) (again : Bool) :
    Except Fault Bool × Database :=
  let title := Text.canonical (Edition.titleText a.title)
  if title = "" then (.error (.invalidArgument .lookupWithoutTitle), db)
  else
    match a.unit? with
    | none => (.ok false, db)
    | some u =>
        db.run c 1 do
          let ts ← Work.tables .release
          Work.carry u.numbers
          return ts.deliveries title u == 0 || again

end ReleaseHistory
