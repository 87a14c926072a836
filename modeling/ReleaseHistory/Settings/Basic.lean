/-
# ReleaseHistory.Settings.Basic -- settings and their valid ranges

Settings tell where a history is kept, how verbose the log is, how a history is
deleted in batches and how it is paged.  `Settings.validate` names the first
setting that is out of range.

The log is set up before that, and takes a level that it does not know for a
warning.  It refuses two of its own names that stand for no level: the layout of
its lines and the table of layouts (`Settings.logFault?`).
-/
import ReleaseHistory.Fault

namespace ReleaseHistory

set_option autoImplicit false

/-- The size of a page if none is asked for, and the greatest size of a page. -/
structure PageSettings where
  defaultSize : Int := 20
  maxSize : Int := 500
  deriving DecidableEq, Repr

/-- How a history is kept and shown. -/
structure Settings where
  databasePath : String := ".release_guard.db"
  logLevel : String := "WARNING"
  busyTimeoutMs : Int := 5000
  deleteBatchSize : Int := 500
  retentionHours : Int := 0
  pages : PageSettings := {}
  deriving DecidableEq, Repr

namespace Settings

def pathVariable : String := "RELEASE_GUARD_DB_PATH"
def logLevelVariable : String := "RELEASE_GUARD_LOG_LEVEL"
def busyTimeoutVariable : String := "RELEASE_GUARD_BUSY_TIMEOUT_MS"
def batchSizeVariable : String := "RELEASE_GUARD_DELETE_BATCH_SIZE"
def retentionVariable : String := "RELEASE_GUARD_RETENTION_HOURS"
def defaultPageSizeVariable : String := "RELEASE_GUARD_DEFAULT_PAGE_SIZE"
def maxPageSizeVariable : String := "RELEASE_GUARD_MAX_PAGE_SIZE"

/-- The layout of a line of the log. -/
def logLayout : String := "%(levelname)s:%(name)s:%(message)s"

/-- The name of the layout, and that of the table of layouts. -/
def logLayoutName : String := "BASIC_FORMAT"
def logLayoutsName : String := "_STYLES"

/-- Why the log cannot be set up. -/
def logFault? (s : Settings) : Option Fault :=
  if s.logLevel = logLayoutName then some (.invalidValue (.notALevel logLayout))
  else if s.logLevel = logLayoutsName then some .typeMismatch
  else none

/-- The first setting that is out of range. -/
def validate (s : Settings) : Except ValueFault Unit :=
  if !logLevels.contains s.logLevel then .error (.unknownLogLevel s.logLevel)
  else if s.busyTimeoutMs ≤ 0 then .error (.notPositive busyTimeoutVariable)
  else if s.deleteBatchSize ≤ 0 then .error (.notPositive batchSizeVariable)
  else if s.retentionHours < 0 then .error (.negative retentionVariable)
  else if s.pages.defaultSize ≤ 0 then .error (.notPositive defaultPageSizeVariable)
  else if s.pages.maxSize < s.pages.defaultSize then .error .pageSizesCross
  else .ok ()

/-- The time that a lock is waited for is finite as a binary number. -/
def timeoutFits (s : Settings) : Bool :=
  !(Binary64.ofRatio false s.busyTimeoutMs.natAbs 1).isInfinite

end Settings

end ReleaseHistory
