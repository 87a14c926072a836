/-
# ReleaseHistory.Value.Display -- values as text

A value is shown in full: words for nothing and the truth values, numerals, the
shortest decimal of a binary number, lists in brackets and records in braces.
Inside a list or a record a text is quoted and a date is shown by its parts.
Outside of them a text is shown as it is (`Datum.display`, `Datum.displayLoose`).
-/
import ReleaseHistory.Value.Basic
import ReleaseHistory.Number.Shortest
import ReleaseHistory.Text.Loose

namespace ReleaseHistory.Datum

set_option autoImplicit false

open Text (LooseText quoted quotedLoose)

variable {τ : Type}

mutual

/-- A value as it stands inside a list or a record. -/
def displayInner (quote : τ → String) : Datum τ → String
  | .null => "None"
  | .bool b => if b then "True" else "False"
  | .int n => Numeral.write n
  | .float x => x.write
  | .text t => quote t
  | .list vs => "[" ++ displayItems quote vs ++ "]"
  | .record fs => "\x7b" ++ displayFields quote fs ++ "\x7d"
  | .date d =>
      "datetime.date(" ++ Numeral.write d.year ++ ", " ++ Numeral.write d.month ++ ", " ++
        Numeral.write d.day ++ ")"

/-- The entries of a list with commas between. -/
def displayItems (quote : τ → String) : List (Datum τ) → String
  | [] => ""
  | [v] => displayInner quote v
  | v :: vs => displayInner quote v ++ ", " ++ displayItems quote vs

/-- The fields of a record with commas between. -/
def displayFields (quote : τ → String) : List (τ × Datum τ) → String
  | [] => ""
  | [(n, v)] => quote n ++ ": " ++ displayInner quote v
  | (n, v) :: fs => quote n ++ ": " ++ displayInner quote v ++ ", " ++ displayFields quote fs

end

/-- A value as text: a text is itself, a date is written in its usual form. -/
def display : Value → String
  | .text s => s
  | .date d => d.write
  | v => displayInner quoted v

/-- A value with loose texts as text. -/
def displayLoose : Datum LooseText → LooseText
  | .text t => t
  | .date d => .ofString d.write
  | v => .ofString (displayInner quotedLoose v)

end ReleaseHistory.Datum
