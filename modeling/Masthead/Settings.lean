import Masthead.Clock
import Masthead.Text.Integer
import Masthead.Text.Letter
import Masthead.Year

/-!
# Settings

Settings come from environment variables.  A variable that is unset or blank leaves a setting at
its default; one that makes no sense does too, with a warning.
-/

namespace Masthead

/-- The environment variables that are set. -/
abbrev Environment := List (String × String)

/-- Why a setting is left at its default although its variable is set. -/
inductive Warning
  | unknownZone (name : String)
  | invalidWorkers (value : String)
  | invalidLogLevel (value : String)
  deriving DecidableEq

/-- A setting, and the warning that its default stands in for another value. -/
structure Setting (α : Type) where
  value : α
  warning : Option Warning

namespace Settings

/-- The zone that the current year is taken in. -/
def zoneVariable : String := "HEADERCHECK_TIMEZONE"

/-- The ending of the names of template files. -/
def suffixVariable : String := "HEADERCHECK_TEMPLATE_SUFFIX"

/-- The number of files that are checked at a time. -/
def workersVariable : String := "HEADERCHECK_MAX_WORKERS"

/-- The least level of messages that are logged. -/
def logLevelVariable : String := "HEADERCHECK_LOG_LEVEL"

def defaultWorkers : Nat := 8

def defaultLogLevel : String := "INFO"

end Settings

def Warning.message : Warning → String
  | unknownZone name =>
      "[CONFIG] Unknown timezone '" ++ name ++ "', using " ++ Zone.universal.name
  | invalidWorkers value =>
      "[CONFIG] Invalid " ++ Settings.workersVariable ++ " '" ++ value ++ "', using " ++
        toString Settings.defaultWorkers
  | invalidLogLevel value =>
      "[CONFIG] Invalid " ++ Settings.logLevelVariable ++ " '" ++ value ++ "', using " ++
        Settings.defaultLogLevel

namespace Environment

/-- Set a variable, or unset it. -/
def assign (environment : Environment) (name : String) (value : Option String) : Environment :=
  let others := environment.filter (·.1 != name)
  match value with
  | none => others
  | some value => (name, value) :: others

/-- The trimmed value of a variable that is set and not blank. -/
def get? (environment : Environment) (name : String) : Option Text :=
  match environment.lookup name with
  | none => none
  | some value =>
      let trimmed := (Text.ofString value).trim
      if trimmed.isEmpty then none else some trimmed

end Environment

namespace Settings

def zoneName (environment : Environment) : String :=
  ((environment.get? zoneVariable).map Text.toString).getD Zone.universal.name

/-- The zone that is set, if the clock knows it. -/
def zone (environment : Environment) (clock : Clock) : Setting Zone :=
  match clock.zone? (zoneName environment) with
  | some zone => ⟨zone, none⟩
  | none => ⟨.universal, some (.unknownZone (zoneName environment))⟩

def templateSuffix (environment : Environment) : String :=
  ((environment.get? suffixVariable).map Text.toString).getD ".template"

def workers (environment : Environment) : Setting Int :=
  match environment.get? workersVariable with
  | none => ⟨defaultWorkers, none⟩
  | some text =>
      let refused : Setting Int := ⟨defaultWorkers, some (.invalidWorkers text.toString)⟩
      match Integer.read text with
      | .ok number => if number < 1 then refused else ⟨number, none⟩
      | .error _ => refused

/-- The log levels that may be set. -/
def validLogLevels : List String := ["DEBUG", "INFO", "WARNING", "ERROR", "CRITICAL"]

/-- The log level that is set, in upper case. -/
def logLevel (environment : Environment) : Setting String :=
  match environment.get? logLevelVariable with
  | none => ⟨defaultLogLevel, none⟩
  | some text =>
      let level := text.upper.toString
      if validLogLevels.contains level then ⟨level, none⟩
      else ⟨defaultLogLevel, some (.invalidLogLevel level)⟩

/-- The rank of each log level that can be asked for by name. -/
def logRanks : List (String × Nat) :=
  [("NOTSET", 0), ("DEBUG", 10), ("INFO", 20), ("WARN", 30), ("WARNING", 30), ("ERROR", 40),
    ("FATAL", 50), ("CRITICAL", 50)]

/-- The rank of the log level that is asked for, or of the one that is set; a name that is none
of the levels has the default rank. -/
def logRank (environment : Environment) (asked : Option String) : Nat :=
  let name :=
    match asked with
    | none => (logLevel environment).value
    | some level => if level.isEmpty then (logLevel environment).value else level
  (logRanks.lookup (Text.ofString name).upper.toString).getD 20

/-- The current year: the one that is asked for, or the one the clock shows in the zone that is
set. -/
def currentYear (environment : Environment) (clock : Clock) (asked : Option Int) :
    Except YearError CurrentYear :=
  CurrentYear.ofInt (asked.getD (clock.now.yearIn (zone environment clock).value))

end Settings

end Masthead
