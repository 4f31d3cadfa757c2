import Masthead.File.Store

/-!
# What paths lead to

A path leads to a file when it can be opened and no name in it is cut short by the character that
ends every name.  Asking whether it does fails in one case only: the path is too long.
-/

namespace Masthead

namespace Store

variable {store : Store} {path : Path}

theorem openFile_eq_ok_iff {location : Location} {file : File} :
    store.openFile path = .ok (location, file) ↔
      store.locate path = .ok location ∧ store.entry? location = some (.file file) := by
  rw [openFile]
  cases located : store.locate path with
  | error fault => simp
  | ok place =>
    simp only [Except.ok.injEq]
    constructor
    · intro opened
      split at opened
      · cases opened
      · cases opened
      · rename_i found
        cases opened
        exact ⟨rfl, found⟩
    · rintro ⟨rfl, found⟩
      rw [found]

theorem file?_of_openFile
    {location : Location} {file : File}
    (opened : store.openFile path = .ok (location, file)) :
    store.file? location = some file := by
  rw [file?, (openFile_eq_ok_iff.1 opened).2]

theorem mem_of_file?
    {location : Location} {file : File}
    (found : store.file? location = some file) :
    (location, .file file) ∈ store.entries := by
  rw [file?, entry?] at found
  split at found
  · rename_i other entry
    cases found
    split at entry
    · cases entry
    · rcases List.lookup_eq_some_iff.1 entry with ⟨front, back, whole, -⟩
      rw [whole]
      simp
  · cases found

/-- A path leads to a file that holds some bytes. -/
def Holds (store : Store) (path : Path) (content : List UInt8) : Prop :=
  path.hasNul = false ∧
    ∃ location file, store.openFile path = .ok (location, file) ∧ file.content = content

theorem isFile_eq_ok_true_iff :
    store.isFile path = .ok true ↔
      path.hasNul = false ∧ ∃ location file, store.openFile path = .ok (location, file) := by
  rw [isFile, lookup]
  cases named : path.hasNul with
  | true => simp [Except.map]
  | false =>
    simp only [openFile_eq_ok_iff]
    cases located : store.locate path with
    | error fault => cases fault <;> simp [Except.map]
    | ok location =>
      cases entry : store.entry? location with
      | none => simp [Except.map, entry]
      | some found => cases found <;> simp [Except.map, entry]

theorem isFile_eq_ok_true_iff_holds :
    store.isFile path = .ok true ↔ ∃ content, store.Holds path content := by
  rw [isFile_eq_ok_true_iff]
  constructor
  · rintro ⟨named, location, file, opened⟩
    exact ⟨file.content, named, location, file, opened, rfl⟩
  · rintro ⟨content, named, location, file, opened, -⟩
    exact ⟨named, location, file, opened⟩

/-- A path leads to one file at most. -/
theorem Holds.unique
    {content other : List UInt8}
    (holds : store.Holds path content)
    (holdsToo : store.Holds path other) :
    content = other := by
  rcases holds with ⟨-, location, file, opened, rfl⟩
  rcases holdsToo with ⟨-, place, found, openedToo, rfl⟩
  rw [opened] at openedToo
  cases openedToo
  rfl

/-- The only fault with a path that is not passed over is its length. -/
theorem isFile_eq_error_iff {error : FileError} :
    store.isFile path = .error error ↔
      path.hasNul = false ∧ store.locate path = .error .nameTooLong ∧
        error = ⟨.nameTooLong, path⟩ := by
  rw [isFile, lookup]
  cases named : path.hasNul with
  | true => simp [Except.map]
  | false =>
    cases located : store.locate path with
    | error fault => cases fault <;> simp [Except.map, eq_comm]
    | ok location => simp [Except.map]

end Store

end Masthead
