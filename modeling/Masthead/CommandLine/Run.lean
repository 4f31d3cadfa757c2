import Masthead.CommandLine.Arguments
import Masthead.Project

/-!
# The command line

The command `check` checks the headers of files, and of the files in directories, against a
template that is named or looked up in the working directory.  It prints one line for each problem
and each fix and a summary, and its exit code says whether there were errors.
-/

namespace Masthead

namespace CommandLine

def helpRule : OptionRule := ⟨["-h", "--help"], false⟩

def logLevelRule : OptionRule := ⟨["--log-level"], true⟩

/-- Names a template file; may be given several times. -/
def templateRule : OptionRule := ⟨["--template"], true⟩

/-- Asks for fixes to be written back. -/
def fixRule : OptionRule := ⟨["--fix"], false⟩

def yearRule : OptionRule := ⟨["--year"], true⟩

/-- Names an extension of the files that are checked in directories; may be given several
times. -/
def extensionRule : OptionRule := ⟨["--ext"], true⟩

def programName : String := "headercheck"

def commandName : String := "check"

def programGrammar : Grammar :=
  ⟨programName, [helpRule, logLevelRule], "command", .wordAndRest⟩

def checkGrammar : Grammar :=
  ⟨programName ++ " " ++ commandName, [helpRule, templateRule, fixRule, yearRule, extensionRule],
    "paths", .oneOrMore⟩

/-- What a command line asks for. -/
structure Request where
  templates : List String
  writesFixes : Bool
  year : Option Int
  extensions : List String
  paths : List String
  deriving DecidableEq

namespace Request

/-- The request that nothing has been asked for yet. -/
def empty : Request := ⟨[], false, none, [], []⟩

end Request

/-- Why a command line is not carried out: help is asked for, or it is misused. -/
inductive Refusal
  | help (program : String)
  | usage (program message : String)
  deriving DecidableEq

def invalidInteger (rule : OptionRule) (value : String) : String :=
  Grammar.about rule.label ("invalid int value: " ++ quoted value)

/-- Carry out the events of the command's arguments: the request, and what was not recognized. -/
def readCheck (request : Request) (unrecognized : List String) :
    List ArgumentEvent → Except Refusal (Request × List String)
  | [] => .ok (request, unrecognized)
  | .failure message :: _ => .error (.usage checkGrammar.program message)
  | .unrecognized argument :: rest => readCheck request (unrecognized ++ [argument]) rest
  | .positional values :: rest => readCheck { request with paths := values } unrecognized rest
  | .option rule value :: rest =>
      let given := value.getD ""
      if rule == helpRule then .error (.help checkGrammar.program)
      else if rule == fixRule then readCheck { request with writesFixes := true } unrecognized rest
      else if rule == templateRule then
        readCheck { request with templates := request.templates ++ [given] } unrecognized rest
      else if rule == extensionRule then
        readCheck { request with extensions := request.extensions ++ [given] } unrecognized rest
      else
        match Integer.read (Text.ofString given) with
        | .ok year => readCheck { request with year := some year } unrecognized rest
        | .error _ => .error (.usage checkGrammar.program (invalidInteger rule given))

/-- Carry out the events of the program's arguments.  What the command did not recognize comes
after what the program did not. -/
def readProgram (request : Request) (unrecognized ofCommand : List String) :
    List ArgumentEvent → Except Refusal (Request × List String)
  | [] => .ok (request, unrecognized ++ ofCommand)
  | .failure message :: _ => .error (.usage programName message)
  | .unrecognized argument :: rest =>
      readProgram request (unrecognized ++ [argument]) ofCommand rest
  | .positional values :: rest =>
      let command := values.headD ""
      if command == commandName then do
        let (request, others) ← readCheck request [] (checkGrammar.events values.tail)
        readProgram request unrecognized others rest
      else
        .error (.usage programName
          (Grammar.about programGrammar.positionalName
            ("invalid choice: " ++ quoted command ++ " (choose from " ++ quoted commandName ++
              ")")))
  | .option rule _ :: rest =>
      if rule == helpRule then .error (.help programName)
      else readProgram request unrecognized ofCommand rest

/-- What the arguments of the program ask for. -/
def readArguments (arguments : List String) : Except Refusal Request := do
  let (request, unrecognized) ← readProgram .empty [] [] (programGrammar.events arguments)
  if unrecognized.isEmpty then .ok request
  else
    .error (.usage programName
      ("unrecognized arguments: " ++ String.intercalate " " unrecognized))

/-- What a run of the program leaves: its exit code, what it prints, and the error of its
usage. -/
structure Outcome where
  exitCode : Nat
  printed : String
  usageError : Option String
  deriving DecidableEq

/-- Why a run of the program breaks off. -/
inductive Failure
  | file (error : FileError)
  | load (error : LoadError)
  | check (error : CheckError)
  deriving DecidableEq

def Failure.message : Failure → String
  | file error => error.message
  | load error => error.message
  | check error => error.message

def helpText (program : String) : String :=
  "usage: " ++ program ++ " [-h] [options] ...\n\n" ++
    "Check source file headers against a header template.\n"

namespace Refusal

/-- The outcome of a command line that is not carried out. -/
def outcome : Refusal → Outcome
  | help program => ⟨0, helpText program, none⟩
  | usage program message => ⟨2, "", some (program ++ ": error: " ++ message)⟩

end Refusal

/-- The files that an argument stands for: itself, or the files of some extensions below a
directory, in the order of their parts. -/
def expand (store : Store) (extensions : List String) (path : Path) :
    Except FileError (List Path) := do
  if ← store.isDirectory path then
    let location ← (store.locate path).mapError (⟨·, path⟩)
    let below := (store.filesBelow location).map fun parts =>
      (⟨path.anchor, path.parts ++ parts⟩ : Path)
    .ok ((below.filter fun file => extensions.contains file.extension).mergeSort Path.comesBefore)
  else .ok [path]

def expandAll (store : Store) (extensions : List String) :
    List Path → Except FileError (List Path)
  | [] => .ok []
  | path :: rest => do
      let files ← expand store extensions path
      let others ← expandAll store extensions rest
      .ok (files ++ others)

def diagnosticLine (path : Path) (diagnostic : Diagnostic) : String :=
  path.toString ++ ":" ++ toString diagnostic.start ++ ": " ++ diagnostic.rule.id ++ " " ++
    diagnostic.rule.severity.name ++ ": " ++ diagnostic.message ++ "\n"

def reportLines (report : Report) : String :=
  match report.error with
  | some error => report.path.toString ++ ": error: " ++ error ++ "\n"
  | none =>
      String.join (report.diagnostics.map (diagnosticLine report.path)) ++
        match report.isFixed, report.fix with
        | true, some fix => report.path.toString ++ ": fixed (" ++ fix.title ++ ")\n"
        | _, _ => ""

def summaryLine (reports : List Report) : String :=
  toString reports.length ++ " files checked, " ++ toString (countErrors reports) ++
    " with errors, " ++ toString (countFixed reports) ++ " fixed\n"

def outcomeOf (reports : List Report) : Outcome :=
  ⟨if countErrors reports == 0 then 0 else 1,
    String.join (reports.map reportLines) ++ summaryLine reports, none⟩

/-- Where the template is looked for, and the ending its name must have: the files that are named,
whatever their names, or those in the working directory. -/
def candidates (project : Project) (templates : List String) :
    Except FileError (List Path × Option String) :=
  if templates.isEmpty then do
    let found ←
      TemplateFiles.discover project.store ⟨.root, project.store.workingDirectory⟩
        (project.suffix none)
    .ok (found, none)
  else .ok (templates.map Path.ofString, some "")

/-- Load the template that a request names or that the working directory holds. -/
def prepare (project : Project) (request : Request) : Except Failure Project := do
  let (paths, suffix) ← (candidates project request.templates).mapError .file
  let (_, loaded) ← (project.loadTemplate paths suffix).mapError .load
  .ok loaded

def requestedFiles (store : Store) (request : Request) : Except Failure (List Path) :=
  let extensions := if request.extensions.isEmpty then [".py"] else request.extensions
  (expandAll store extensions (request.paths.map Path.ofString)).mapError .file

/-- Carry out a request in a year.  The template in use is the request's own, but the templates
remembered are shared. -/
def carryOut (project : Project) (current : CurrentYear) (request : Request) :
    Except Failure Outcome × Project :=
  match prepare project request with
  | .error failure => (.error failure, project)
  | .ok loaded =>
      match requestedFiles loaded.store request with
      | .error failure => (.error failure, { loaded with load := project.load })
      | .ok files =>
          let (reports, after) := loaded.check current files request.writesFixes none []
          ((reports.mapError .check).map outcomeOf, { after with load := project.load })

def run (project : Project) (clock : Clock) (arguments : List String) :
    Except Failure Outcome × Project :=
  match readArguments arguments with
  | .error refusal => (.ok refusal.outcome, project)
  | .ok request =>
      match Settings.currentYear project.environment clock request.year with
      | .error error => (.ok (Refusal.outcome (.usage programName error.message)), project)
      | .ok current => carryOut project current request

end CommandLine

end Masthead
