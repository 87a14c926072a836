/-
# ReleaseHistory.Fault -- what can go wrong

A `Fault` is a cause; `Fault.message` words it.  Six kinds are faults of the
history itself and carry a code (`Fault.code?`): a record that is not there, an
argument that makes no sense, a broken constraint, a call that was canceled or
ran out of time, and a store that cannot be used.  The others come from values
that have no meaning, from numbers and dates that do not fit, and from values of
the wrong type.
-/
import ReleaseHistory.Calendar.DateTime
import ReleaseHistory.Json.Reader
import ReleaseHistory.Search.SortKey
import ReleaseHistory.Text.Quoted

namespace ReleaseHistory

set_option autoImplicit false

open Text (quoted)

/-- The kinds of records of a history, one table each. -/
inductive RecordKind where
  | release
  | actionStatus
  | profile
  deriving DecidableEq, Repr

/-- The name of the table. -/
def RecordKind.table : RecordKind → String
  | .release => "releases"
  | .actionStatus => "release_action_status"
  | .profile => "release_profile_duplicate"

/-- The name of one record in a message. -/
def RecordKind.phrase : RecordKind → String
  | .release => "Release"
  | .actionStatus => "Release action status"
  | .profile => "Duplicate profile"

/-- An argument that makes no sense. -/
inductive ArgumentFault where
  | negativeOffset (offset : Int)
  | unknownSortKey (key : String)
  | unknownDirection (key direction : String)
  | negativeAge (hours : Int)
  | profileWithoutTitle (name : String) (id : Int)
  | candidateWithoutName
  | candidateWithoutTitle
  | lookupWithoutTitle
  deriving DecidableEq, Repr

def ArgumentFault.message : ArgumentFault → String
  | .negativeOffset offset => "Offset must be >= 0: " ++ Numeral.write offset
  | .unknownSortKey key =>
      "Unsupported sort field: " ++ quoted key ++ ". Allowed: " ++
        ", ".intercalate (SortColumn.keys.map Prod.fst) ++ "."
  | .unknownDirection key direction =>
      "Unsupported sort direction for " ++ quoted key ++ ": " ++ quoted direction ++ "."
  | .negativeAge hours => "older_than_hours must be >= 0: " ++ Numeral.write hours
  | .profileWithoutTitle name id =>
      "Duplicate profile " ++ (if name = "" then Numeral.write id else quoted name) ++
        " must enable title or exact release name matching."
  | .candidateWithoutName => "Candidate release has no release name."
  | .candidateWithoutTitle => "Candidate release has no title."
  | .lookupWithoutTitle => "Smart episode lookup requires a title."

/-- A constraint that a write would break. -/
inductive Constraint where
  | uniqueReleaseId
  | uniqueProfileName
  | statusOwner
  deriving DecidableEq, Repr

def Constraint.message : Constraint → String
  | .uniqueReleaseId => "UNIQUE constraint failed: releases.id"
  | .uniqueProfileName => "UNIQUE constraint failed: release_profile_duplicate.name"
  | .statusOwner => "FOREIGN KEY constraint failed"

/-- Why the store cannot be used. -/
inductive Outage where
  | locked
  | missingTable (k : RecordKind)
  | largeExpression
  | manyValues
  | longPattern
  | full
  deriving DecidableEq, Repr

def Outage.message : Outage → String
  | .locked => "database is locked"
  | .missingTable k => "no such table: " ++ k.table
  | .largeExpression => "Expression tree is too large (maximum depth 1000)"
  | .manyValues => "too many SQL variables"
  | .longPattern => "LIKE or GLOB pattern too complex"
  | .full => "database or disk is full"

/-- The kinds of labels that a text may fail to be. -/
inductive LabelKind where
  | protocol
  | implementation
  | filterStatus
  | pushStatus
  | actionType
  deriving DecidableEq, Repr

/-- The name of the kind in a message. -/
def LabelKind.phrase : LabelKind → String
  | .protocol => "ReleaseProtocol"
  | .implementation => "ReleaseImplementation"
  | .filterStatus => "ReleaseFilterStatus"
  | .pushStatus => "ReleasePushStatus"
  | .actionType => "ActionType"

/-- A value that has no meaning. -/
inductive ValueFault where
  | notALabel (kind : LabelKind) (text : String)
  | notAnInteger (variableName raw : String)
  | unknownLogLevel (level : String)
  | notALevel (text : String)
  | notPositive (variableName : String)
  | negative (variableName : String)
  | pageSizesCross
  | longNumeral (digits : Nat)
  | notANumber
  | percentSign (template : String) (position : Nat)
  deriving DecidableEq, Repr

/-- The levels of logging, in alphabetical order. -/
def logLevels : List String := ["CRITICAL", "DEBUG", "ERROR", "INFO", "WARNING"]

def ValueFault.message : ValueFault → String
  | .notALabel kind text => quoted text ++ " is not a valid " ++ kind.phrase
  | .notAnInteger variableName raw =>
      "Invalid integer value for " ++ variableName ++ ": " ++ quoted raw
  | .unknownLogLevel level =>
      "RELEASE_GUARD_LOG_LEVEL must be one of [" ++ ", ".intercalate (logLevels.map quoted) ++
        "]: " ++ quoted level
  | .notALevel text => "Unknown level: " ++ quoted text
  | .notPositive variableName => variableName ++ " must be > 0."
  | .negative variableName => variableName ++ " must be >= 0."
  | .pageSizesCross =>
      "RELEASE_GUARD_MAX_PAGE_SIZE must be >= RELEASE_GUARD_DEFAULT_PAGE_SIZE."
  | .longNumeral digits =>
      "Exceeds the limit (" ++ Numeral.write Numeral.maxDigits ++
        " digits) for integer string conversion: value has " ++ Numeral.write digits ++
        " digits; use sys.set_int_max_str_digits() to increase the limit"
  | .notANumber => "cannot convert float NaN to integer"
  | .percentSign template position =>
      "invalid interpolation syntax in " ++ quoted template ++ " at position " ++
        Numeral.write position

/-- The cause of a failure. -/
inductive Fault where
  | notFound (k : RecordKind) (id : Int)
  | invalidArgument (f : ArgumentFault)
  | conflict (c : Constraint)
  | canceled
  | deadlineExceeded (deadline : DateTime)
  | unavailable (o : Outage)
  /-- A value that has no meaning. -/
  | invalidValue (v : ValueFault)
  /-- A text that is not JSON, with the place where that shows. -/
  | malformedJson (c : Json.Complaint) (line column index : Nat)
  /-- A JSON text whose lists and records are nested too deep. -/
  | nestedTooDeep
  /-- A number or a date that does not fit. -/
  | overflow
  /-- Values of types that do not go together. -/
  | typeMismatch
  /-- The store cannot be opened, or cannot be written while its tables are made or
  mended by hand. -/
  | storeFailure
  deriving DecidableEq

namespace Fault

/-- The fault of a column that does not hold JSON. -/
def ofJson : Json.Flaw → Fault
  | .malformed c line column index => .malformedJson c line column index
  | .longNumeral digits => .invalidValue (.longNumeral digits)
  | .tooDeep => .nestedTooDeep

/-- The wording of a fault. -/
def message : Fault → String
  | .notFound k id => k.phrase ++ " not found: " ++ Numeral.write id
  | .invalidArgument f => f.message
  | .conflict c => "Release store constraint violation: " ++ c.message
  | .canceled => "Operation canceled by caller."
  | .deadlineExceeded deadline =>
      "Operation deadline exceeded (deadline=" ++ deadline.write ++ ")."
  | .unavailable o => "Release store unavailable: " ++ o.message
  | .invalidValue v => v.message
  | .malformedJson c line column index =>
      c.message ++ ": line " ++ Numeral.write line ++ " column " ++ Numeral.write column ++
        " (char " ++ Numeral.write index ++ ")"
  | .nestedTooDeep => "JSON text nested too deep."
  | .overflow => "Number or date out of range."
  | .typeMismatch => "Values of these types do not go together."
  | .storeFailure => "The store cannot be opened or written."

/-- The code of a fault of the history itself. -/
def code? : Fault → Option String
  | .notFound .. => some "not_found"
  | .invalidArgument _ => some "invalid_argument"
  | .conflict _ => some "conflict"
  | .canceled => some "canceled"
  | .deadlineExceeded _ => some "deadline_exceeded"
  | .unavailable _ => some "unavailable"
  | _ => none

/-- The same call may succeed later. -/
def isRetryable : Fault → Bool
  | .deadlineExceeded _ => true
  | .unavailable _ => true
  | _ => false

/-- The fault comes from a value that has no meaning, or from a text that is not JSON. -/
def isValueFault : Fault → Bool
  | .invalidValue _ => true
  | .malformedJson .. => true
  | _ => false

end Fault

end ReleaseHistory
