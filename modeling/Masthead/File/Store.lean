import Masthead.File.Path
import Masthead.Text.Quoted
import Masthead.Text.Utf8

/-!
# The store of files

A store maps locations to files and directories and is seen from a working directory.  A path is
followed part by part from where it begins: every part but the last must lead to a directory, and
two dots lead to the directory above.

Symbolic links are left out: no entry stands for another one.  So two paths that lead to one location
differ in where they begin and in their dots only, and a location is above another one if it begins
it.
-/

namespace Masthead

/-- When a file was last written: at a time that was set, or by the given number of earlier
writes. -/
inductive Stamp
  | set (seconds : Int)
  | written (earlier : Nat)
  deriving DecidableEq

structure File where
  content : List UInt8
  stamp : Stamp
  deriving DecidableEq

/-- What stands at a location. -/
inductive Entry
  | file (file : File)
  | directory
  deriving DecidableEq

/-- The names that lead from the root to a place in a store. -/
abbrev Location := List String

/-- The entries of a store, the working directory, and the number of writes so far. -/
structure Store where
  entries : List (Location × Entry)
  workingDirectory : Location
  writes : Nat

/-- Why a path cannot be used. -/
inductive FileFault
  | notFound
  | accessDenied
  | notDirectory
  | isDirectory
  | nameTooLong
  deriving DecidableEq

namespace FileFault

def code : FileFault → Nat
  | notFound => 2
  | accessDenied => 13
  | notDirectory => 20
  | isDirectory => 21
  | nameTooLong => 36

def wording : FileFault → String
  | notFound => "No such file or directory"
  | accessDenied => "Permission denied"
  | notDirectory => "Not a directory"
  | isDirectory => "Is a directory"
  | nameTooLong => "File name too long"

end FileFault

/-- A fault met at a path. -/
structure FileError where
  fault : FileFault
  path : Path
  deriving DecidableEq

def FileError.message (error : FileError) : String :=
  "[Errno " ++ toString error.fault.code ++ "] " ++ error.fault.wording ++ ": " ++
    quoted error.path.toString

namespace Path

/-- The greatest number of bytes in one part of a path. -/
def maxPartBytes : Nat := 255

def maxBytes : Nat := 4095

/-- Whether a path holds the character that ends every name in the operating system. -/
def hasNul (path : Path) : Bool := path.parts.any (·.toList.contains '\x00')

end Path

namespace Store

def nameBytes (name : String) : Nat := (Utf8.encode name.toList).length

/-- What stands at a location; the root is a directory. -/
def entry? (store : Store) (location : Location) : Option Entry :=
  if location.isEmpty then some .directory else store.entries.lookup location

def file? (store : Store) (location : Location) : Option File :=
  match store.entry? location with
  | some (.file file) => some file
  | _ => none

/-- Replace the entry of a location, or add it. -/
def putEntry (location : Location) (entry : Entry) :
    List (Location × Entry) → List (Location × Entry)
  | [] => [(location, entry)]
  | other :: rest =>
      if other.1 == location then (location, entry) :: rest
      else other :: putEntry location entry rest

/-- A store with an entry at a location. -/
def put (store : Store) (location : Location) (entry : Entry) : Store :=
  { store with entries := putEntry location entry store.entries }

def erase (store : Store) (location : Location) : Store :=
  { store with entries := store.entries.filter (·.1 != location) }

/-- A store in which a file at a location holds some bytes, written now. -/
def write (store : Store) (location : Location) (content : List UInt8) : Store :=
  { store.put location (.file ⟨content, .written store.writes⟩) with writes := store.writes + 1 }

/-- Follow some parts from a location. -/
def follow (store : Store) (location : Location) : List String → Except FileFault Location
  | [] => .ok location
  | part :: rest =>
      match store.entry? location with
      | none => .error .notFound
      | some (.file _) => .error .notDirectory
      | some .directory =>
          if Path.maxPartBytes < nameBytes part then .error .nameTooLong
          else if part == ".." then follow store location.dropLast rest
          else follow store (location ++ [part]) rest

/-- Where a path begins in a store. -/
def origin (store : Store) (path : Path) : Location :=
  if path.anchor == .here then store.workingDirectory else []

/-- The location that a path leads to; nothing need stand there. -/
def locate (store : Store) (path : Path) : Except FileFault Location :=
  if Path.maxBytes < nameBytes path.toString then .error .nameTooLong
  else store.follow (store.origin path) path.parts

/-- The file that a path leads to, with its location. -/
def openFile (store : Store) (path : Path) : Except FileError (Location × File) :=
  match store.locate path with
  | .error fault => .error ⟨fault, path⟩
  | .ok location =>
      match store.entry? location with
      | none => .error ⟨.notFound, path⟩
      | some .directory => .error ⟨.isDirectory, path⟩
      | some (.file file) => .ok (location, file)

/-- What a path leads to, if anything.  A path whose name cannot exist at all is an error. -/
def lookup (store : Store) (path : Path) : Except FileError (Option Entry) :=
  if path.hasNul then .ok none
  else
    match store.locate path with
    | .error .nameTooLong => .error ⟨.nameTooLong, path⟩
    | .error _ => .ok none
    | .ok location => .ok (store.entry? location)

def isFile (store : Store) (path : Path) : Except FileError Bool :=
  (store.lookup path).map fun
    | some (.file _) => true
    | _ => false

def isDirectory (store : Store) (path : Path) : Except FileError Bool :=
  (store.lookup path).map (· == some .directory)

/-- The parts that lead from a location to each file below it. -/
def filesBelow (store : Store) (location : Location) : List (List String) :=
  store.entries.filterMap fun entry =>
    match entry.2 with
    | .directory => none
    | .file _ =>
        if location.isPrefixOf entry.1 && entry.1 != location then
          some (entry.1.drop location.length)
        else none

/-- Create the directories that some parts lead through from a location, where they are missing,
and say where they lead. -/
def makeWay (store : Store) (location : Location) :
    List String → Except FileFault (Location × Store)
  | [] =>
      match store.entry? location with
      | none => .ok (location, store.put location .directory)
      | some .directory => .ok (location, store)
      | some (.file _) => .error .notDirectory
  | part :: rest =>
      match store.entry? location with
      | some (.file _) => .error .notDirectory
      | found =>
          let prepared := if found.isSome then store else store.put location .directory
          if Path.maxPartBytes < nameBytes part then .error .nameTooLong
          else if part == ".." then makeWay prepared location.dropLast rest
          else makeWay prepared (location ++ [part]) rest

def makeDirectory (store : Store) (path : Path) : Except FileError Store :=
  match store.makeWay (store.origin path) path.parts with
  | .error fault => .error ⟨fault, path⟩
  | .ok (_, prepared) => .ok prepared

/-- Create or replace a file whose time of writing is set, with the directories above it. -/
def install (store : Store) (path : Path) (content : List UInt8) (seconds : Int) :
    Except FileError Store :=
  match store.makeWay (store.origin path) path.parts.dropLast with
  | .error fault => .error ⟨fault, path⟩
  | .ok (directory, prepared) =>
      let location := directory ++ [path.name]
      if prepared.entry? location == some .directory then .error ⟨.isDirectory, path⟩
      else .ok (prepared.put location (.file ⟨content, .set seconds⟩))

def remove (store : Store) (path : Path) : Except FileError Store :=
  (store.openFile path).map fun found => store.erase found.1

end Store

end Masthead
