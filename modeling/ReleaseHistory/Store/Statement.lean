/-
# ReleaseHistory.Store.Statement -- how large a statement may be

A statement joins conditions and carries values, and both are limited.

* Conditions are nested in one another, which bounds their number; the bound is
  lower for a statement with a condition that looks into a second table.  The
  lower bound shows only once the tables are known.
* The values that a statement carries are counted.
* Conditions are read in their order, the values of each before the condition
  itself, so that the first limit that is passed is the one that is reported.
* A pattern is limited in its length, which shows when a text is matched with it.
-/
import ReleaseHistory.Store.Database

namespace ReleaseHistory

set_option autoImplicit false

namespace Statement

/-- The greatest number of conditions. -/
def maxConditions : Nat := 997

/-- The greatest number of conditions where one of them looks into a second table. -/
def maxConditionsWithLookup : Nat := 993

/-- The greatest number of values. -/
def maxValues : Nat := 32766

/-- The greatest length of a pattern in bytes. -/
def maxPatternBytes : Nat := 50000

/-- The first limit that is passed, after the given numbers of conditions and values, by
conditions that carry the listed numbers of values and by the values behind them. -/
def outageFrom? (conditions values behind : Nat) : List Nat → Option Outage
  | [] => if maxValues < values + behind then some .manyValues else none
  | n :: ns =>
      if maxValues < values + n then some .manyValues
      else if maxConditions < conditions + 1 then some .largeExpression
      else outageFrom? (conditions + 1) (values + n) behind ns

/-- The first limit that a statement passes. -/
def outage? (conditions : List Nat) (behind : Nat) : Option Outage :=
  outageFrom? 0 0 behind conditions

end Statement

namespace Work

/-- Compose a statement of conditions that carry the listed numbers of values, with more
values behind them. -/
def compose (conditions : List Nat) (behind : Nat) : Work Unit :=
  match Statement.outage? conditions behind with
  | some outage => throw (.unavailable outage)
  | none => pure ()

/-- Resolve a statement, one condition of which may look into a second table. -/
def resolve (lookup : Bool) (conditions : List Nat) : Work Unit :=
  if lookup && Statement.maxConditionsWithLookup < conditions.length then
    throw (.unavailable .largeExpression)
  else pure ()

end Work

end ReleaseHistory
