/-
# ReleaseHistory.Store.Database -- three tables and the transactions on them

A database is empty or holds three tables: releases, action statuses, and
duplicate profiles.  Another party may hold its write lock.

`Work` is what is done inside one transaction, on a working copy of the
database.  `Database.run` makes a transaction: it checks the limits of the call,
does the work, and keeps the changes only if all of it succeeded.  The faults of
one statement come in this order: a missing table, a number that does not fit in
64 bits, a lock, an id that is not to be had, a broken constraint.
-/
import ReleaseHistory.Limits
import ReleaseHistory.Profile.Basic
import ReleaseHistory.Store.Record
import ReleaseHistory.Store.Table

namespace ReleaseHistory

set_option autoImplicit false

/-- The three tables of a history. -/
structure Tables where
  releases : Table StoredRelease := .empty
  statuses : Table StoredStatus := .empty
  profiles : Table NamedSwitches := .empty

/-- A history, with or without its tables. -/
structure Database where
  tables : Option Tables := none
  locked : Bool := false

/-- A history whose tables are empty. -/
def Database.initialised : Database := { tables := some {} }

/-- Work on a copy of the database inside one transaction. -/
abbrev Work := StateT Database (Except Fault)

namespace Work

/-- The tables, of which a statement needs the given one first. -/
def tables (k : RecordKind) : Work Tables := do
  match (← get).tables with
  | some ts => return ts
  | none => throw (.unavailable (.missingTable k))

/-- A whole number that a statement can carry. -/
def fits64 (n : Int) : Bool :=
  -9223372036854775808 ≤ n && n ≤ 9223372036854775807

/-- Hand whole numbers to a statement. -/
def carry (ns : List Int) : Work Unit :=
  if ns.all fits64 then pure () else throw .overflow

/-- A statement that writes needs the write lock. -/
def acquireLock : Work Unit := do
  if (← get).locked then throw (.unavailable .locked)

/-- Take the id for a new record, if there is one. -/
def takeId : Option Int → Work Int
  | some id => pure id
  | none => throw (.unavailable .full)

/-- Change the tables of the working copy. -/
def setTables (ts : Tables) : Work Unit := modify fun db => { db with tables := some ts }

/-- Make the `n`-th check of the call. -/
def check (c : Call) (n : Nat) : Work Unit := liftM (c.check n)

/-- Read the outcome of a step that may fail. -/
def ofExcept {α : Type} (e : Except Fault α) : Work α := liftM e

end Work

namespace Database

/-- One transaction: check the limits for the `opening`-th time, do the work, and
keep its changes if it succeeds. -/
def run {α : Type} (db : Database) (c : Call) (opening : Nat) (w : Work α) :
    Except Fault α × Database :=
  match c.check opening with
  | .error f => (.error f, db)
  | .ok () =>
      match StateT.run w db with
      | .error f => (.error f, db)
      | .ok (a, db') => (.ok a, db')

/-- A transaction that fails leaves the database as it was. -/
theorem run_of_error {α : Type} {db db' : Database} {c : Call} {n : Nat} {w : Work α} {f : Fault}
    (h : db.run c n w = (.error f, db')) : db' = db := by
  unfold Database.run at h
  split at h
  · exact (Prod.mk.inj h).2.symm
  · split at h
    · exact (Prod.mk.inj h).2.symm
    · simp at h

/-- Make the tables where they are missing. -/
def initialise (db : Database) : Except Fault Unit × Database :=
  match db.tables with
  | some _ => (.ok (), db)
  | none =>
    if db.locked then (.error .storeFailure, db) else (.ok (), { db with tables := some {} })

end Database

/-- What a write leaves behind: its outcome, the object that was written with what
the write filled in, and the database. -/
structure Written (α : Type) where
  outcome : Except Fault Int
  subject : α
  database : Database

end ReleaseHistory
