import Masthead.Proofs.File.Frame
import Masthead.Proofs.Project.History

/-!
# The spelling by which a file was read

Several paths may lead to one file.  A load is remembered for the location of the file, but it tells
of the path by which the file was read, and so does the message of a template that is refused.  As
long as the file stays the same, every load of it therefore tells of the spelling that was used
first, and not of the one that is asked for now.

What one load does to what is remembered of a file is said first, and from it what a run of loads
does.  The main theorem says which path a load tells of, after any run of loads.  Of the way in which
paths are followed it uses only that a path leads to one location at most; there are no symbolic
links among the files.
-/

namespace Masthead

namespace Store

instance (store : Store) (path : Path) (location : Location) :
    Decidable (store.LeadsTo path location) :=
  decidable_of_iff ((store.openFile path).toOption.map (·.1) = some location) (by
    rw [LeadsTo]
    cases store.openFile path with
    | error error => simp [Except.toOption]
    | ok found =>
      rcases found with ⟨place, file⟩
      simp [Except.toOption])

end Store

namespace TemplateCache

/-- Remembering a load changes what is remembered for its location only. -/
theorem get?_put
    (cache : TemplateCache) (location place : Location) (version known : Version)
    (loaded : Loaded) :
    (cache.put location version loaded).get? place known =
      if place = location then (if version = known then some loaded else none)
      else cache.get? place known := by
  rw [get?, put, lookup_cons_eq_ite]
  by_cases here : place = location
  · rw [if_pos here, if_pos here]
    by_cases same : version = known
    · simp [same]
    · simp [same]
  · rw [if_neg here, if_neg here, lookup_filter_of_ne here]
    rfl

end TemplateCache

namespace Project

variable {project : Project} {path : Path} {location : Location} {file : File} {text : Text}

/-- What is remembered of a file in its present version. -/
def recalled? (project : Project) (location : Location) (file : File) : Option TemplateLoad :=
  (project.cache.get? location file.version).map (·.load)

/-! ## One load -/

theorem store_after_load (project : Project) (other : Path) :
    (project.after (.load other)).store = project.store := by
  rw [after]
  split <;> rfl

/-- A load of another file changes nothing in what is remembered of a file. -/
theorem recalled?_after_load_of_not_leadsTo
    {other : Path}
    (elsewhere : ¬ project.store.LeadsTo other location) :
    (project.after (.load other)).recalled? location file = project.recalled? location file := by
  rw [recalled?, after]
  split
  · rename_i loaded cache loads
    rcases TemplateCache.load_cases loads with rfl | ⟨place, found, opened, -, rfl⟩
    · rfl
    · have apart : location ≠ place := by
        rintro rfl
        exact elsewhere ⟨found, opened⟩
      rw [TemplateCache.get?_put, if_neg apart]
      rfl
  · rfl

/-- A load of a file gives what is remembered of it, or else reads the file by its own spelling; and
that is remembered from then on. -/
theorem exists_load
    (opened : project.store.openFile path = .ok (location, file))
    (decoded : Utf8.decode file.content = .ok text) :
    ∃ loaded cache, project.cache.load project.store path = .ok (loaded, cache) ∧
      cache.get? location file.version = some loaded ∧
        some loaded.load =
          (project.recalled? location file).or (some (.ofText text.unifyBreaks path)) := by
  rw [recalled?]
  cases remembered : project.cache.get? location file.version with
  | some known => exact ⟨known, _, TemplateCache.load_of_get? opened remembered, remembered, rfl⟩
  | none =>
    refine ⟨_, _, TemplateCache.load_of_get?_eq_none opened remembered decoded, ?_, rfl⟩
    rw [TemplateCache.get?_put, if_pos rfl, if_pos rfl]

theorem recalled?_after_load
    (opened : project.store.openFile path = .ok (location, file))
    (decoded : Utf8.decode file.content = .ok text) :
    (project.after (.load path)).recalled? location file =
      (project.recalled? location file).or (some (.ofText text.unifyBreaks path)) := by
  rcases exists_load opened decoded with ⟨loaded, cache, loads, remembered, given⟩
  rw [← given, recalled?, after, loads]
  exact congrArg (Option.map (·.load)) remembered

/-! ## A run of loads -/

/-- After a run of loads a file is remembered as it was before, or else by the first spelling that
led to it. -/
theorem recalled?_run
    (opened : project.store.openFile path = .ok (location, file))
    (decoded : Utf8.decode file.content = .ok text)
    (loads : List Path) :
    (project.run (loads.map .load)).store = project.store ∧
      (project.run (loads.map .load)).recalled? location file =
        (project.recalled? location file).or
          ((loads.find? (project.store.LeadsTo · location)).map
            (.ofText text.unifyBreaks)) := by
  induction loads generalizing project with
  | nil => exact ⟨rfl, (Option.or_none).symm⟩
  | cons other loads ih =>
    have kept := store_after_load project other
    have openedAfter := opened
    rw [← kept] at openedAfter
    rcases ih openedAfter with ⟨store, recalled⟩
    rw [kept] at store recalled
    refine ⟨store, recalled.trans ?_⟩
    by_cases here : project.store.LeadsTo other location
    · rcases here with ⟨found, openedToo⟩
      have same : found = file := by
        have entries := (Store.openFile_eq_ok_iff.1 openedToo).2
        rw [(Store.openFile_eq_ok_iff.1 opened).2] at entries
        exact (Entry.file.inj (Option.some.inj entries)).symm
      subst same
      rw [recalled?_after_load openedToo decoded, List.find?_cons_of_pos, Option.or_assoc]
      · rfl
      · exact decide_eq_true ⟨found, openedToo⟩
    · rw [recalled?_after_load_of_not_leadsTo here, List.find?_cons_of_neg]
      simpa using here

/-- Reading a file gives the load of its text, by whichever spelling. -/
theorem read_of_decode
    (decoded : Utf8.decode file.content = .ok text)
    (spelling : Path) :
    TemplateCache.read spelling file.content = .ok (.ofText text.unifyBreaks spelling) := by
  rw [TemplateCache.read, decoded]
  rfl

/-- After any run of loads of files that stay as they are, a load of a file gives what was already
remembered of the file before the run.  If nothing was, it gives what reading the file by the first
spelling of the run that leads to it gives, with the path in this spelling and, for a template that
is refused, a message that tells of it.  So it is the load that the path itself would give exactly
if no other spelling came first. -/
theorem load_names_first
    (opened : project.store.openFile path = .ok (location, file))
    (decoded : Utf8.decode file.content = .ok text)
    (loads : List Path) :
    ∃ loaded after,
      (project.run (loads.map .load)).cache.load project.store path = .ok (loaded, after) ∧
      (∀ known, project.recalled? location file = some known → loaded.load = known) ∧
      (project.recalled? location file = none →
        ∃ first,
          (loads ++ [path]).find? (project.store.LeadsTo · location) = some first ∧
          TemplateCache.read first file.content = .ok loaded.load ∧
          loaded.load.path = some first ∧
          (∀ error, text ≠ [] → Template.parse text.unifyBreaks = .error error →
            loaded.load.diagnostic?.map (·.message) =
              some ("Error in " ++ first.toString ++ ": " ++ error.message)) ∧
          (TemplateCache.read path file.content = .ok loaded.load ↔ first = path)) := by
  rcases recalled?_run opened decoded loads with ⟨store, recalled⟩
  rcases exists_load (store ▸ opened) decoded with ⟨loaded, cache, outcome, -, given⟩
  rw [store] at outcome
  rw [recalled, Option.or_assoc] at given
  refine ⟨loaded, cache, outcome, ?_, ?_⟩
  · intro known remembered
    rw [remembered, Option.some_or, Option.some.injEq] at given
    exact given
  · intro unread
    have leads : decide (project.store.LeadsTo path location) = true :=
      decide_eq_true ⟨file, opened⟩
    have spelled : ((loads ++ [path]).find? (project.store.LeadsTo · location)).map
        (.ofText text.unifyBreaks) = some loaded.load := by
      rw [given, unread, Option.none_or, List.find?_append, List.find?_singleton, if_pos leads,
        Option.map_or, Option.map_some]
    rcases Option.map_eq_some_iff.1 spelled with ⟨first, found, load⟩
    rw [← load]
    refine ⟨first, found, read_of_decode decoded first, TemplateLoad.path_ofText _ first, ?_, ?_⟩
    · intro error occupied refused
      have occupiedToo : text.unifyBreaks ≠ [] := by rwa [Ne, Text.unifyBreaks_eq_nil_iff]
      rw [TemplateLoad.ofText_of_refused occupiedToo refused]
      exact congrArg some (TemplateLoad.message_saying_misconfigured 0 0 _)
    · rw [read_of_decode decoded, Except.ok.injEq]
      constructor
      · intro same
        have paths := congrArg TemplateLoad.path same
        rw [TemplateLoad.path_ofText, TemplateLoad.path_ofText, Option.some.injEq] at paths
        exact paths.symm
      · rintro rfl
        rfl

/-- A template file that names no known segment. -/
def misnamedFile : File := ⟨"\x7bFoo\x7d".toList.map fun c => c.toNat.toUInt8, .set 0⟩

/-- A project with this file and a directory beside it. -/
def misnamedProject : Project :=
  { sampleProject with
    store := ⟨[(["d"], .directory), (["t.template"], .file misnamedFile)], [], 0⟩ }

/-- A path that leads through the directory and back to the file. -/
def detour : Path := ⟨.here, ["d", "..", "t.template"]⟩

theorem load_names_first_sample :
    ∃ loaded after,
      (misnamedProject.run [.load samplePath]).cache.load misnamedProject.store detour =
          .ok (loaded, after) ∧
        loaded.load.path = some samplePath ∧
          TemplateCache.read detour misnamedFile.content ≠ .ok loaded.load := by
  have opened : misnamedProject.store.openFile detour = .ok (["t.template"], misnamedFile) := by
    decide +kernel
  have decoded : Utf8.decode misnamedFile.content = .ok "\x7bFoo\x7d".toList := by decide +kernel
  have first : ([samplePath] ++ [detour]).find?
      (misnamedProject.store.LeadsTo · ["t.template"]) = some samplePath := by
    decide +kernel
  rcases load_names_first opened decoded [samplePath] with ⟨loaded, after, loads, -, spelled⟩
  rcases spelled rfl with ⟨other, found, -, path, -, same⟩
  cases first.symm.trans found
  exact ⟨loaded, after, loads, path, same.not.2 (by decide)⟩

/-- A file is loaded by one path and then by another, and both loads tell of the first one. -/
theorem load_tells_other_path :
    (misnamedProject.store.openFile detour).map (·.1) = .ok ["t.template"] ∧
      ((misnamedProject.run [.load samplePath]).cache.load misnamedProject.store detour).map
          (fun outcome => (outcome.1.load.path, outcome.1.load.diagnostic?.map (·.message))) =
        .ok (some samplePath,
          some "Error in t.template: Unrecognized special segment 'Foo'") ∧
      (TemplateCache.read detour misnamedFile.content).map
          (fun load => (load.path, load.diagnostic?.map (·.message))) =
        .ok (some detour,
          some "Error in d/../t.template: Unrecognized special segment 'Foo'") := by
  decide +kernel

end Project

end Masthead
