import Mathlib.Data.List.Pairwise
import Masthead.Proofs.File.Store
import Masthead.Proofs.Table

/-!
# What writing a file leaves as it is

A write replaces the bytes of one file.  Every other location keeps its entry, and no file becomes a
directory or goes away, so every path leads where it led before and opens what it opened before,
unless it leads to the file that was written.
-/

namespace Masthead

/-- The bytes of an entry, if it is a file. -/
def Entry.bytes? : Entry → Option (List UInt8)
  | .file found => some found.content
  | .directory => none

namespace Store

variable {store : Store} {location place : Location} {content : List UInt8}

/-- The bytes of the file at a location. -/
def content? (store : Store) (location : Location) : Option (List UInt8) :=
  (store.entry? location).bind Entry.bytes?

/-- Two stores have the same directories and the same bytes in the same files, whenever these were
written, and are seen from the same directory. -/
structure Alike (first second : Store) : Prop where
  workingDirectory : first.workingDirectory = second.workingDirectory
  entries : ∀ location,
    (first.entry? location).map Entry.bytes? = (second.entry? location).map Entry.bytes?

/-- Two stores have the same directories and files, whatever is in these. -/
structure SameTree (first second : Store) : Prop where
  workingDirectory : first.workingDirectory = second.workingDirectory
  entries : ∀ location,
    (first.entry? location).map (·.bytes?.isSome) =
      (second.entry? location).map (·.bytes?.isSome)

/-- A path opens the file at a location. -/
def LeadsTo (store : Store) (path : Path) (location : Location) : Prop :=
  ∃ file, store.openFile path = .ok (location, file)

/-- Two paths do not open one file. -/
def Apart (store : Store) (first second : Path) : Prop :=
  ∀ location, store.LeadsTo first location → ¬ store.LeadsTo second location

instance (store : Store) (first second : Path) : Decidable (store.Apart first second) :=
  match opened : store.openFile first, openedToo : store.openFile second with
  | .ok (location, file), .ok (place, other) =>
      decidable_of_iff (location ≠ place) (by
        constructor
        · rintro different _ ⟨_, leads⟩ ⟨_, leadsToo⟩
          rw [opened] at leads
          rw [openedToo] at leadsToo
          cases leads
          cases leadsToo
          exact different rfl
        · rintro apart rfl
          exact apart location ⟨file, opened⟩ ⟨other, openedToo⟩)
  | .error _, _ => isTrue fun _ ⟨_, leads⟩ _ => by rw [opened] at leads; cases leads
  | .ok _, .error _ => isTrue fun _ _ ⟨_, leads⟩ => by rw [openedToo] at leads; cases leads

theorem Apart.symm
    {first second : Path}
    (apart : store.Apart first second) :
    store.Apart second first :=
  fun location leads leadsToo => apart location leadsToo leads

/-- Paths that are apart from one another do not open one file unless they are the same. -/
theorem eq_of_leadsTo
    {paths : List Path} {first second : Path}
    (apart : paths.Pairwise store.Apart)
    (member : first ∈ paths)
    (memberToo : second ∈ paths)
    (leads : store.LeadsTo first location)
    (leadsToo : store.LeadsTo second location) :
    first = second := by
  by_contra different
  have : Std.Symm store.Apart := ⟨fun _ _ => Apart.symm⟩
  exact apart.forall member memberToo different location leads leadsToo

/-! ## Entries -/

theorem lookup_putEntry (location place : Location) (entry : Entry)
    (entries : List (Location × Entry)) :
    (putEntry location entry entries).lookup place =
      if place = location then some entry else entries.lookup place :=
  lookup_of_replaced (putEntry location entry) rfl (fun _ _ => rfl) entries place

/-- A location at which a file stands is not the root. -/
theorem isEmpty_of_entry?_file
    {file : File}
    (stands : store.entry? location = some (.file file)) :
    location.isEmpty = false := by
  unfold entry? at stands
  split at stands
  · cases stands
  · rename_i below
    simpa using below

theorem entry?_write_self
    {file : File}
    (stands : store.entry? location = some (.file file))
    (content : List UInt8) :
    Store.entry? (store.write location content) location =
      some (.file ⟨content, .written store.writes⟩) := by
  unfold entry?
  rw [isEmpty_of_entry?_file stands, if_neg Bool.false_ne_true]
  exact (lookup_putEntry _ _ _ _).trans (if_pos rfl)

theorem entry?_write_of_ne
    (other : place ≠ location)
    (content : List UInt8) :
    Store.entry? (store.write location content) place = store.entry? place := by
  unfold entry?
  split
  · rfl
  · exact (lookup_putEntry _ _ _ _).trans (if_neg other)

/-! ## Paths -/

/-- At a location, two stores with the same directories and files have nothing both, a directory
both or a file both. -/
theorem SameTree.entry?_cases
    {first second : Store}
    (tree : SameTree first second)
    (location : Location) :
    first.entry? location = none ∧ second.entry? location = none ∨
      first.entry? location = some .directory ∧ second.entry? location = some .directory ∨
        ∃ one two, first.entry? location = some (.file one) ∧
          second.entry? location = some (.file two) := by
  have kinds := tree.entries location
  rcases before : first.entry? location with _ | one | _ <;>
    rcases after : second.entry? location with _ | two | _ <;>
      simp [before, after, Entry.bytes?] at kinds ⊢

theorem SameTree.follow_eq
    {first second : Store}
    (tree : SameTree first second)
    (location : Location)
    (parts : List String) :
    first.follow location parts = second.follow location parts := by
  induction parts generalizing location with
  | nil => rfl
  | cons part rest ih =>
    rw [follow, follow]
    rcases tree.entry?_cases location with
      ⟨before, after⟩ | ⟨before, after⟩ | ⟨one, two, before, after⟩
    · rw [before, after]
    · rw [before, after]
      simp only [ih]
    · rw [before, after]

theorem SameTree.locate_eq
    {first second : Store}
    (tree : SameTree first second)
    (path : Path) :
    first.locate path = second.locate path := by
  rw [locate, locate, origin, origin, tree.workingDirectory, tree.follow_eq]

/-- A path opens the same in two stores with the same directories and files, if the entry it leads
to is the same. -/
theorem SameTree.openFile_eq
    {first second : Store}
    (tree : SameTree first second)
    {path : Path}
    (same : ∀ location, second.locate path = .ok location →
      first.entry? location = second.entry? location) :
    first.openFile path = second.openFile path := by
  rw [openFile, openFile, tree.locate_eq]
  cases located : second.locate path with
  | error fault => rfl
  | ok location =>
    dsimp only
    rw [same location located]

/-- Writing a file that is there keeps the directories and files. -/
theorem sameTree_write
    {file : File}
    (stands : store.entry? location = some (.file file))
    (content : List UInt8) :
    SameTree (store.write location content) store where
  workingDirectory := rfl
  entries := by
    intro place
    by_cases same : place = location
    · rw [same, entry?_write_self stands, stands]
      rfl
    · rw [entry?_write_of_ne same]

/-- A path that does not open the file that is written opens what it opened before. -/
theorem openFile_write_of_not_leadsTo
    {path : Path} {file : File}
    (stands : store.entry? location = some (.file file))
    (elsewhere : ¬ store.LeadsTo path location)
    (content : List UInt8) :
    (store.write location content).openFile path = store.openFile path := by
  apply (sameTree_write stands content).openFile_eq
  intro place located
  apply entry?_write_of_ne
  rintro rfl
  exact elsewhere ⟨file, openFile_eq_ok_iff.2 ⟨located, stands⟩⟩

end Store

end Masthead
