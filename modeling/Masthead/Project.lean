import Masthead.Check
import Masthead.Settings
import Masthead.Template.Cache

/-!
# Projects

A project is a store of files together with the environment, the template that is in use, and the
templates remembered so far.
-/

namespace Masthead

/-- Files, settings, and what is known about the template. -/
structure Project where
  store : Store
  environment : Environment
  cache : TemplateCache
  load : TemplateLoad

namespace Project

/-- A project in an empty directory. -/
def empty (directory : Location) (environment : Environment) : Project where
  store := ⟨[(directory, .directory)], directory, 0⟩
  environment := environment
  cache := .empty
  load := .unset

/-- The ending of template names: the one that is asked for, or the one that is set. -/
def suffix (project : Project) (asked : Option String) : String :=
  asked.getD (Settings.templateSuffix project.environment)

def select (project : Project) (paths : List String) (asked : Option String) : List Path :=
  TemplateFiles.select (paths.map Path.ofString) (project.suffix asked)

def discover (project : Project) (root : String) (asked : Option String) :
    Except FileError (List Path) :=
  TemplateFiles.discover project.store (Path.ofString root) (project.suffix asked)

/-- Load the template among some candidates and use it from now on. -/
def loadTemplate (project : Project) (paths : List Path) (asked : Option String) :
    Except LoadError (Loaded × Project) := do
  let (loaded, cache) ←
    TemplateFiles.load project.cache project.store paths (project.suffix asked)
  .ok (loaded, { project with cache := cache, load := loaded.load })

/-- The number of workers: the one that is asked for unless it is zero, or the one that is set. -/
def workers (project : Project) (asked : Option Int) : Int :=
  match asked with
  | none | some 0 => (Settings.workers project.environment).value
  | some count => count

def check (project : Project) (current : CurrentYear) (paths : List Path) (writesFixes : Bool)
    (asked : Option Int) (unwritable : List Path) :
    Except CheckError (List Report) × Project :=
  let plan : CheckPlan := ⟨project.load, current, writesFixes, [], unwritable⟩
  let (outcome, store) := plan.checkPaths (project.workers asked) project.store paths
  (outcome, { project with store := store })

end Project

end Masthead
