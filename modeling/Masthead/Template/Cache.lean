import Masthead.File.Store
import Masthead.Template.Load

/-!
# Finding and caching the template file

The template of a project is the one candidate file whose name ends in a given suffix.  Parsed
templates are remembered by the location of their file, together with the time of writing and the
size that the file had; a file that has neither changed is not read again.
-/

namespace Masthead

/-- The version of a file, by which a change is noticed: when it was written, and its size. -/
structure Version where
  stamp : Stamp
  size : Nat
  deriving DecidableEq

def File.version (file : File) : Version := ⟨file.stamp, file.content.length⟩

/-- A load, and the number of the reading it comes from, if it comes from reading a file. -/
structure Loaded where
  load : TemplateLoad
  reading : Option Nat
  deriving DecidableEq

/-- Why a template file cannot be loaded at all. -/
inductive LoadError
  | file (error : FileError)
  | encoding (error : Utf8.Error)
  deriving DecidableEq

def LoadError.message : LoadError → String
  | file error => error.message
  | encoding error => error.message

/-- The loads that have been remembered, and the number of readings so far. -/
structure TemplateCache where
  entries : List (Location × Version × Loaded)
  readings : Nat

namespace TemplateCache

def empty : TemplateCache := ⟨[], 0⟩

def clear (cache : TemplateCache) : TemplateCache := { cache with entries := [] }

/-- The load remembered for a location, if the file there has the same version. -/
def get? (cache : TemplateCache) (location : Location) (version : Version) : Option Loaded :=
  match cache.entries.lookup location with
  | some (known, loaded) => if known == version then some loaded else none
  | none => none

/-- A cache that remembers a load in place of an earlier one of the same location. -/
def put (cache : TemplateCache) (location : Location) (version : Version) (loaded : Loaded) :
    TemplateCache where
  entries := (location, version, loaded) :: cache.entries.filter (·.1 != location)
  readings := cache.readings + 1

/-- The load of a file's bytes: a template source whose line breaks are unified. -/
def read (path : Path) (content : List UInt8) : Except LoadError TemplateLoad := do
  let text ← (Utf8.decode content).mapError .encoding
  .ok (.ofText text.unifyBreaks path)

def load (cache : TemplateCache) (store : Store) (path : Path) :
    Except LoadError (Loaded × TemplateCache) := do
  let (location, file) ← (store.openFile path).mapError .file
  match cache.get? location file.version with
  | some loaded => .ok (loaded, cache)
  | none => do
      let load ← read path file.content
      let loaded : Loaded := ⟨load, some cache.readings⟩
      .ok (loaded, cache.put location file.version loaded)

end TemplateCache

namespace TemplateFiles

/-- The first two candidates whose names end in a suffix: one is the rule, and two are enough to
say that there are too many. -/
def select (paths : List Path) (suffix : String) : List Path :=
  (paths.filter fun path => Path.endsWith path.name suffix).take 2

/-- The template files of a suffix that stand in a directory itself, by name. -/
def discover (store : Store) (root : Path) (suffix : String) : Except FileError (List Path) := do
  if ← store.isDirectory root then
    let location ← (store.locate root).mapError (⟨·, root⟩)
    let names := (store.filesBelow location).filterMap fun
      | [name] => if Path.endsWith name suffix then some name else none
      | _ => none
    .ok ((names.map root.child).mergeSort Path.comesBefore)
  else .ok []

def load (cache : TemplateCache) (store : Store) (paths : List Path) (suffix : String) :
    Except LoadError (Loaded × TemplateCache) :=
  match select paths suffix with
  | [] => .ok (⟨.missing suffix, none⟩, cache)
  | [path] => do
      if ← (store.isFile path).mapError .file then cache.load store path
      else .ok (⟨.absent path, none⟩, cache)
  | _ => .ok (⟨.ambiguous suffix, none⟩, cache)

end TemplateFiles

end Masthead
