import Mathlib.Data.List.Infix
import Masthead.Project
import Masthead.Proofs.Template.Load

/-!
# The history of a project

Files come, change and go while templates are loaded and remembered.  What is remembered for a
location was read, at some time in the past, from a file that stood there in the version that is
remembered.  As long as a version of a file has one content only, a load therefore never differs
from reading the file anew, however the file was named when it was read.

Where a path leads is asked of the files at the time of the load.  Nothing else is used of the way in
which paths are followed, in which there are no symbolic links.
-/

namespace Masthead

/-- A change of the files of a project. -/
inductive Edit
  | install (path : Path) (content : List UInt8) (seconds : Int)
  | write (location : Location) (content : List UInt8)
  | makeDirectory (path : Path)
  | remove (path : Path)

/-- The files after a change; a change that fails leaves them as they are. -/
def Edit.apply (store : Store) : Edit → Store
  | install path content seconds => (store.install path content seconds).toOption.getD store
  | write location content => store.write location content
  | makeDirectory path => (store.makeDirectory path).toOption.getD store
  | remove path => (store.remove path).toOption.getD store

namespace Project

/-- One step in the history of a project. -/
inductive Step
  | edit (edit : Edit)
  | clear
  | load (path : Path)

/-- The project after a step; a load that fails changes nothing. -/
def after (project : Project) : Step → Project
  | .edit edit => { project with store := edit.apply project.store }
  | .clear => { project with cache := project.cache.clear }
  | .load path =>
      match project.cache.load project.store path with
      | .ok (_, cache) => { project with cache := cache }
      | .error _ => project

def run (project : Project) (steps : List Step) : Project := steps.foldl after project

/-- Over a whole history, two contents of one file never have the same version. -/
def Versioned (project : Project) (steps : List Step) : Prop :=
  ∀ early late, early <+: steps → late <+: steps →
    ∀ location old new, (project.run early).store.file? location = some old →
      (project.run late).store.file? location = some new →
        old.version = new.version → old.content = new.content

theorem run_concat (project : Project) (steps : List Step) (step : Step) :
    project.run (steps ++ [step]) = (project.run steps).after step := by
  rw [run, List.foldl_append]
  rfl

end Project

/-! ## What a cache gives -/

namespace TemplateCache

variable {cache after : TemplateCache} {store : Store} {path : Path} {location : Location}
  {version : Version} {loaded : Loaded}

theorem mem_of_get?
    (remembered : cache.get? location version = some loaded) :
    (location, version, loaded) ∈ cache.entries := by
  rw [get?] at remembered
  split at remembered
  · rename_i known other found
    split at remembered
    · rename_i same
      obtain rfl := Option.some.inj remembered
      obtain rfl : known = version := by simpa using same
      rcases List.lookup_eq_some_iff.1 found with ⟨front, back, whole, -⟩
      rw [whole]
      simp
    · cases remembered
  · cases remembered

/-- A load is remembered, or else the file is read and the load is remembered from then on. -/
theorem load_cases
    (loads : cache.load store path = .ok (loaded, after)) :
    after = cache ∨
      ∃ location file, store.openFile path = .ok (location, file) ∧
        read path file.content = .ok loaded.load ∧
          after = cache.put location file.version loaded := by
  rw [load] at loads
  cases opened : store.openFile path with
  | error error =>
    rw [opened] at loads
    cases loads
  | ok found =>
    rcases found with ⟨location, file⟩
    rw [opened] at loads
    simp only [Except.mapError, bind, Except.bind] at loads
    split at loads
    · cases loads
      exact Or.inl rfl
    · split at loads
      · cases loads
      · rename_i reads
        cases loads
        exact Or.inr ⟨location, file, rfl, reads, rfl⟩

theorem load_of_get?
    {file : File}
    (opened : store.openFile path = .ok (location, file))
    (remembered : cache.get? location file.version = some loaded) :
    cache.load store path = .ok (loaded, cache) := by
  simp [load, opened, remembered, Except.mapError, bind, Except.bind]

end TemplateCache

namespace Project

/-! ## What is remembered -/

variable {project : Project} {past steps : List Step} {cache : TemplateCache}

/-- A load was read in the past from a file at a location, in some version. -/
def WasRead (project : Project) (past : List Step) (location : Location) (version : Version)
    (load : TemplateLoad) : Prop :=
  ∃ (before : List Step) (path : Path) (file : File), before ++ [.load path] <+: past ∧
    (project.run before).store.openFile path = .ok (location, file) ∧ file.version = version ∧
      TemplateCache.read path file.content = .ok load

/-- Everything in a cache was read in the past. -/
def Remembers (project : Project) (past : List Step) (cache : TemplateCache) : Prop :=
  ∀ location version loaded, (location, version, loaded) ∈ cache.entries →
    WasRead project past location version loaded.load

theorem Remembers.concat
    (remembers : Remembers project past cache)
    (step : Step) :
    Remembers project (past ++ [step]) cache := by
  intro location version loaded member
  rcases remembers location version loaded member with ⟨before, path, file, inPast, read⟩
  exact ⟨before, path, file, inPast.trans (List.prefix_append past [step]), read⟩

theorem Remembers.put
    {location : Location} {version : Version} {loaded : Loaded}
    (remembers : Remembers project past cache)
    (read : WasRead project past location version loaded.load) :
    Remembers project past (cache.put location version loaded) := by
  intro place known other member
  rcases List.mem_cons.1 member with same | old
  · cases same
    exact read
  · exact remembers place known other (List.mem_of_mem_filter old)

/-- A step remembers nothing but what it reads. -/
theorem Remembers.after
    (remembers : Remembers project past (project.run past).cache)
    (step : Step) :
    Remembers project (past ++ [step]) ((project.run past).after step).cache := by
  have kept := remembers.concat step
  cases step with
  | edit edit => exact kept
  | clear =>
    intro location version loaded member
    cases member
  | load path =>
    rw [Project.after]
    split
    · rename_i loaded cache loads
      rcases TemplateCache.load_cases loads with rfl | ⟨location, file, opened, read, rfl⟩
      · exact kept
      · exact kept.put ⟨past, path, file, List.prefix_rfl, opened, rfl, read⟩
    · exact kept

theorem remembers_run
    (fresh : project.cache.entries = [])
    (past : List Step) :
    Remembers project past (project.run past).cache := by
  induction past using List.reverseRecOn with
  | nil =>
    intro location version loaded member
    rw [run, List.foldl_nil, fresh] at member
    cases member
  | append_singleton past step ih =>
    rw [run_concat]
    exact ih.after step

/-- Every load gives what reading the file anew would give: the same template, the same error or
nothing in both cases.  It is that of a path by which the file has been loaded before, or is now. -/
theorem load_never_stale
    {before : List Step} {path : Path} {location : Location} {file : File} {text : Text}
    (fresh : project.cache.entries = [])
    (versioned : Versioned project steps)
    (inside : before ++ [.load path] <+: steps)
    (opened : (project.run before).store.openFile path = .ok (location, file))
    (decoded : Utf8.decode file.content = .ok text) :
    ∃ loaded cache,
      (project.run before).cache.load (project.run before).store path = .ok (loaded, cache) ∧
      loaded.load.Alike (TemplateLoad.ofText text.unifyBreaks path) ∧
      ∃ (earlier : List Step) (named : Path) (old : File), loaded.load.path = some named ∧
        earlier ++ [.load named] <+: before ++ [.load path] ∧
          (project.run earlier).store.openFile named = .ok (location, old) := by
  cases remembered : (project.run before).cache.get? location file.version with
  | none =>
    have loads := TemplateCache.load_of_get?_eq_none opened remembered decoded
    exact ⟨_, _, loads, TemplateLoad.alike_ofText _ path path, before, path, file,
      TemplateLoad.path_ofText _ path, List.prefix_rfl, opened⟩
  | some loaded =>
    have loads := TemplateCache.load_of_get? opened remembered
    rcases remembers_run fresh before _ _ _ (TemplateCache.mem_of_get? remembered) with
      ⟨earlier, named, old, inPast, openedThen, version, read⟩
    have now : before <+: steps := (List.prefix_append before _).trans inside
    have past : earlier <+: steps := ((List.prefix_append earlier _).trans inPast).trans now
    have content : old.content = file.content :=
      versioned earlier before past now location old file (Store.file?_of_openFile openedThen)
        (Store.file?_of_openFile opened) version
    have whole : loaded.load = TemplateLoad.ofText text.unifyBreaks named := by
      rw [content, TemplateCache.read, decoded] at read
      exact (Except.ok.inj read).symm
    refine ⟨loaded, _, loads, ?_, earlier, named, old, ?_, ?_, openedThen⟩
    · rw [whole]
      exact TemplateLoad.alike_ofText _ named path
    · rw [whole]
      exact TemplateLoad.path_ofText _ named
    · exact inPast.trans (List.prefix_append before _)

/-! ## A history -/

/-- Whether two entries of one location may both stand in a history. -/
def agrees : Entry → Entry → Bool
  | .file old, .file new => old.version != new.version || old.content == new.content
  | _, _ => true

/-- Whether versions tell contents apart can be checked entry by entry. -/
theorem versioned_of_agrees
    (agree : ∀ early ∈ steps.inits, ∀ late ∈ steps.inits,
      ∀ old ∈ (project.run early).store.entries, ∀ new ∈ (project.run late).store.entries,
        old.1 = new.1 → agrees old.2 new.2 = true) :
    Versioned project steps := by
  intro early late earlyPrefix latePrefix location old new foundOld foundNew version
  have inEarly := Store.mem_of_file? foundOld
  have inLate := Store.mem_of_file? foundNew
  have both := agree early ((List.mem_inits _ _).2 earlyPrefix) late
    ((List.mem_inits _ _).2 latePrefix) _ inEarly _ inLate rfl
  simpa [agrees, version] using both

def samplePath : Path := ⟨.here, ["t.template"]⟩

/-- Another spelling of the same path. -/
def sampleAlias : Path := ⟨.here, ["..", "t.template"]⟩

/-- A template file is written, loaded, written anew, and loaded by another name. -/
def sampleHistory : List Step :=
  [.edit (.install samplePath [0x78] 1), .load samplePath, .edit (.remove samplePath),
    .edit (.install samplePath [0x79] 2), .load sampleAlias]

def sampleProject : Project := .empty [] []

theorem load_never_stale_sample :
    ∃ loaded cache,
      (sampleProject.run (sampleHistory.take 4)).cache.load
          (sampleProject.run (sampleHistory.take 4)).store sampleAlias = .ok (loaded, cache) ∧
        loaded.load.Alike (TemplateLoad.ofText ['y'] sampleAlias) := by
  have versioned : Versioned sampleProject sampleHistory :=
    versioned_of_agrees (by decide +kernel)
  have inside : sampleHistory.take 4 ++ [.load sampleAlias] <+: sampleHistory := List.prefix_rfl
  have opened : (sampleProject.run (sampleHistory.take 4)).store.openFile sampleAlias =
      .ok (["t.template"], ⟨[0x79], .set 2⟩) := by
    decide +kernel
  have decoded : Utf8.decode [0x79] = .ok ['y'] := by decide +kernel
  rcases load_never_stale rfl versioned inside opened decoded with ⟨loaded, cache, loads, alike, -⟩
  exact ⟨loaded, cache, loads, alike⟩

end Project

end Masthead
