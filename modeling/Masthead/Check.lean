import Masthead.File.Store
import Masthead.Fix

/-!
# Checking files

Each file is checked by itself and reported on by itself: one that cannot be read or written is
reported as such and the others go on.  A fix is written only when it changes the text.
-/

namespace Masthead

/-- What is reported on one file. -/
structure Report where
  path : Path
  state : Option HeaderState
  diagnostics : List Diagnostic
  fix : Option Fix
  isFixed : Bool
  error : Option String
  deriving DecidableEq

namespace Report

/-- The report on a file that cannot be read. -/
def unread (path : Path) (error : String) : Report := ⟨path, none, [], none, false, some error⟩

/-- Whether a file could not be read or written, or has an error. -/
def hasErrors (report : Report) : Bool :=
  report.error.isSome || report.diagnostics.any (·.isError)

end Report

/-- Why a check of files ends without a report. -/
inductive CheckError
  | embeddedNul
  | noWorkers
  | interpretation (error : InterpretationError)
  deriving DecidableEq

def CheckError.message : CheckError → String
  | embeddedNul => "embedded null byte"
  | noWorkers => "max_workers must be greater than 0"
  | interpretation error => error.message

/-- How files are checked: against which template and year, whether fixes are written back, and
which paths refuse to be read or to be written. -/
structure CheckPlan where
  load : TemplateLoad
  current : CurrentYear
  writesFixes : Bool
  unreadable : List Path
  unwritable : List Path

namespace CheckPlan

/-- The report on a file and the store after its fix, if any, is written. -/
def settle (plan : CheckPlan) (store : Store) (path : Path) (location : Location) (text : Text)
    (analysis : Analysis) (fix : Option Fix) : Report × Store :=
  let report : Report := ⟨path, some analysis.state, analysis.diagnostics, fix, false, none⟩
  match plan.writesFixes, fix with
  | true, some fix =>
      if fix.text == text then (report, store)
      else if plan.unwritable.contains path then
        ({ report with error := some (FileError.message ⟨.accessDenied, path⟩) }, store)
      else
        ({ report with isFixed := true }, store.write location (Utf8.encode fix.text))
  | _, _ => (report, store)

def checkFile (plan : CheckPlan) (store : Store) (path : Path) :
    Except CheckError Report × Store :=
  if path.hasNul then (.error .embeddedNul, store)
  else
    match store.openFile path with
    | .error error => (.ok (.unread path error.message), store)
    | .ok (location, file) =>
        if plan.unreadable.contains path then
          (.ok (.unread path (FileError.message ⟨.accessDenied, path⟩)), store)
        else
          match Utf8.decode file.content with
          | .error error => (.ok (.unread path error.message), store)
          | .ok text =>
              match plan.load.check plan.current text with
              | .error error => (.error (.interpretation error), store)
              | .ok (analysis, fix) =>
                  let (report, after) := plan.settle store path location text analysis fix
                  (.ok report, after)

def checkEach (plan : CheckPlan) (store : Store) :
    List Path → List (Except CheckError Report) × Store
  | [] => ([], store)
  | path :: rest =>
      let (report, between) := plan.checkFile store path
      let (reports, after) := checkEach plan between rest
      (report :: reports, after)

/-- The reports of a check, or the first reason why one is missing. -/
def gather : List (Except CheckError Report) → Except CheckError (List Report)
  | [] => .ok []
  | report :: rest => do
      let first ← report
      let others ← gather rest
      .ok (first :: others)

/-- Check some files with a number of workers, which must be positive when there is work. -/
def checkPaths (plan : CheckPlan) (workers : Int) (store : Store) (paths : List Path) :
    Except CheckError (List Report) × Store :=
  if !paths.isEmpty && workers < 1 then (.error .noWorkers, store)
  else
    let (reports, after) := plan.checkEach store paths
    (gather reports, after)

end CheckPlan

def countErrors (reports : List Report) : Nat := reports.countP (·.hasErrors)

def countFixed (reports : List Report) : Nat := reports.countP (·.isFixed)

end Masthead
