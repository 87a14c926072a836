/-
# ReleaseHistory.Settings.Environment -- settings from variables

Every setting has a variable.  A number may have blanks around it and is the
default where its variable is missing or blank; a variable that is no number is
named together with its text.  The log level is taken in upper case.
-/
import ReleaseHistory.Settings.Basic
import ReleaseHistory.Settings.Path
import ReleaseHistory.Text.UpperCase

namespace ReleaseHistory

set_option autoImplicit false

/-- Variables with their texts. -/
abbrev Environment := List (String × String)

namespace Settings

/-- The whole number that a variable holds, or the default. -/
def readNumber (env : Environment) (variableName : String) (default : Int) :
    Except ValueFault Int :=
  match env.lookup variableName with
  | none => .ok default
  | some raw =>
      let text := Text.strip raw
      if text = "" then .ok default
      else
        match Numeral.read? text with
        | some n => .ok n
        | none => .error (.notAnInteger variableName raw)

/-- The settings that an environment gives; a path given apart from it wins. -/
def ofEnvironment (env : Environment) (path : Option String) : Except ValueFault Settings := do
  let busyTimeoutMs ← readNumber env busyTimeoutVariable 5000
  let deleteBatchSize ← readNumber env batchSizeVariable 500
  let retentionHours ← readNumber env retentionVariable 0
  let defaultSize ← readNumber env defaultPageSizeVariable 20
  let maxSize ← readNumber env maxPageSizeVariable 500
  return { databasePath :=
             Path.plain (path.getD ((env.lookup pathVariable).getD ".release_guard.db"))
           logLevel :=
             Text.upperCase (Text.strip ((env.lookup logLevelVariable).getD "WARNING"))
           busyTimeoutMs, deleteBatchSize, retentionHours
           pages := { defaultSize, maxSize } }

end Settings

end ReleaseHistory
