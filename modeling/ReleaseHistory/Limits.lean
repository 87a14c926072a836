/-
# ReleaseHistory.Limits -- how long a call may go on

A call may have a deadline, may be canceled, and may cancel itself at one of its
checks.  Every operation checks its limits before it starts and again before it
makes its changes last; checks are counted from 1.  The clock goes on during a
call: it is read once for the time of the call and anew at each check, so that a
deadline may pass between two of them.

The clock may show any offset.  Where the time is needed it is taken in UTC, and
that fails when it leaves the years 1 to 9999.
-/
import ReleaseHistory.Fault
import ReleaseHistory.Calendar.Duration
import ReleaseHistory.Store.Table

namespace ReleaseHistory

set_option autoImplicit false

/-- The limits of one call. -/
structure Limits where
  deadline : Option DateTime := none
  canceled : Bool := false
  cancelAtCheck : Option Int := none

/-- What a clock shows, in UTC. -/
def readClock (clock : DateTime) : Except Fault DateTime :=
  match clock.toAwareUtc? with
  | none => .error .overflow
  | some now => .ok now

namespace Limits

/-- The call is canceled when its `n`-th check is made. -/
def canceledAt (l : Limits) (n : Nat) : Bool :=
  l.canceled || l.cancelAtCheck.any fun k : Int => 1 ≤ k && k ≤ (n : Int)

/-- The `n`-th check of a call at the time that the clock shows then. -/
def check (l : Limits) (clock : DateTime) (n : Nat) : Except Fault Unit :=
  if l.canceledAt n then .error .canceled
  else
    match l.deadline with
    | none => .ok ()
    | some deadline => do
        let now ← readClock clock
        if deadline.isNaive then .error .typeMismatch
        else if deadline.instant ≤ now.instant then .error (.deadlineExceeded deadline)
        else .ok ()

/-- Limits that end the given number of microseconds from now. -/
def endingAfter (clock : DateTime) (duration : Except Duration.Flaw Int) : Except Fault Limits := do
  let now ← readClock clock
  match duration with
  | .error .notANumber => .error (.invalidValue .notANumber)
  | .error .outOfRange => .error .overflow
  | .ok n =>
      match now.addMicros? n with
      | none => .error .overflow
      | some deadline => .ok { deadline := some deadline }

end Limits

/-- A call: what the clock shows when it starts, its limits, what the clock shows at each of
its checks, and the ids that are drawn for a record that it adds, one after another. -/
structure Call where
  clock : DateTime
  limits : Limits := {}
  clockAt : Nat → DateTime := fun _ => clock
  draws : List DrawnId := []

namespace Call

/-- The time of the call in UTC. -/
def time (c : Call) : Except Fault DateTime := readClock c.clock

/-- The timestamp of a record, or the time of the call for a record without one. -/
def stamp (c : Call) : Option DateTime → Except Fault DateTime
  | some t => .ok t
  | none => c.time

/-- The `n`-th check of the call. -/
def check (c : Call) (n : Nat) : Except Fault Unit := c.limits.check (c.clockAt n) n

end Call

end ReleaseHistory
