/-
# ReleaseHistory.Value.Basic -- values whose type is known only when they arrive

Name recognisers and stored list columns deliver values of any type: nothing,
truth values, whole and binary numbers, texts, lists, records and dates.  What a
text is depends on where the value comes from (`Datum`); in a `Value` it is a
string.
-/
import ReleaseHistory.Number.Binary64
import ReleaseHistory.Calendar.Date

namespace ReleaseHistory

set_option autoImplicit false

/-- A value of any type, with texts of type `τ`. -/
inductive Datum (τ : Type) where
  | null
  | bool (b : Bool)
  | int (n : Int)
  | float (x : Binary64)
  | text (t : τ)
  | list (vs : List (Datum τ))
  | record (fields : List (τ × Datum τ))
  | date (d : Date)
  deriving Inhabited

/-- A value whose texts are strings. -/
abbrev Value := Datum String

namespace Datum

/-- The value counts as present: not nothing, false, zero or empty. -/
def isTruthy : Value → Bool
  | .null => false
  | .bool b => b
  | .int n => n ≠ 0
  | .float x => !x.isZero
  | .text s => s ≠ ""
  | .list vs => !vs.isEmpty
  | .record fs => !fs.isEmpty
  | .date _ => true

/-- The value is the given text. -/
def isText (s : String) : Value → Bool
  | .text t => t == s
  | _ => false

/-- The entries of a list; a single value stands for a list of one, nothing for none. -/
def entries : Value → List Value
  | .null => []
  | .list vs => vs
  | v => [v]

/-- The field of a record; nothing where the record or the field is missing. -/
def field (name : String) : Value → Value
  | .record fs => (fs.lookup name).getD .null
  | _ => .null

end Datum

end ReleaseHistory
