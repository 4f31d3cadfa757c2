import Masthead.CommandLine.Run
import Std.Time.Zoned

/-!
# The program

Reads the files that a command line is about, runs it on them, prints what it prints and writes
back the files that it changed.
-/

namespace Masthead

/-- The environment variables that hold settings. -/
def settingVariables : List String :=
  [Settings.zoneVariable, Settings.suffixVariable, Settings.workersVariable,
    Settings.logLevelVariable]

/-- The settings that the environment holds. -/
def readEnvironment : IO Environment := do
  let mut environment : Environment := []
  for name in settingVariables do
    environment := environment.assign name (← IO.getEnv name)
  return environment

/-- How a location is written for the operating system. -/
def Location.print (location : Location) : String := "/" ++ String.intercalate "/" location

/-- Add the file or directory at a location to a store, and what lies some levels below it. -/
partial def survey (store : Store) (location : Location) (isDeep : Bool) : IO Store := do
  let place := (← IO.currentDir) / Location.print location
  if ← place.isDir then
    let mut found := store.put location .directory
    for entry in ← place.readDir do
      let below := location ++ [entry.fileName]
      if isDeep || !(← entry.path.isDir) then
        found ← survey found below isDeep
    return found
  else if ← place.pathExists then
    let content ← IO.FS.readBinFile place
    return store.put location (.file ⟨content.toList, .set 0⟩)
  else
    return store

/-- Add the directories that lead to a location. -/
def surveyWay (store : Store) (location : Location) : IO Store := do
  let here ← IO.currentDir
  let mut found := store
  for count in List.range location.length do
    let way := location.take count
    if ← (here / Location.print way).isDir then
      found := found.put way .directory
  return found

/-- Where a path leads when every name in it is a directory's. -/
def Path.destination (path : Path) (working : Location) : Location :=
  path.parts.foldl
    (fun location part => if part == ".." then location.dropLast else location ++ [part])
    (if path.anchor == .here then working else [])

/-- The part of the file system that a request is about. -/
def surveyRequest (request : CommandLine.Request) (working : Location) : IO Store := do
  let mut store : Store := ⟨[], working, 0⟩
  store ← surveyWay store working
  store ← survey store working false
  for source in request.templates ++ request.paths do
    let location := (Path.ofString source).destination working
    store ← surveyWay store location
    store ← survey store location true
  return store

/-- Write back the files that were written in a store. -/
def writeBack (store : Store) : IO Unit := do
  for (location, entry) in store.entries do
    if let .file ⟨content, .written _⟩ := entry then
      let place := (← IO.currentDir) / Location.print location
      IO.FS.writeBinFile place ⟨content.toArray⟩

/-- The zone that the machine keeps under a name, if it keeps one. -/
def readZone (name : String) : IO (Option Zone) := do
  try
    let rules ← Std.Time.Database.defaultGetZoneRules name
    let ahead (instant : Instant) : Int :=
      (rules.timezoneAt (.ofSecondsSinceUnixEpoch ⟨instant.seconds⟩)).offset.second.val
    return some ⟨name, ahead⟩
  catch _ => return none

/-- The clock of the machine; the only zone that is asked for is the one that is set. -/
def readClock (environment : Environment) : IO Clock := do
  let now ← Std.Time.Timestamp.now
  let name := Settings.zoneName environment
  let zone ← readZone name
  return ⟨⟨now.toSecondsSinceUnixEpoch.val⟩, fun asked => if asked = name then zone else none⟩

/-- Run the program on some arguments. -/
def runProgram (arguments : List String) : IO UInt32 := do
  let environment ← readEnvironment
  let working := (Path.ofString (← IO.currentDir).toString).parts
  let store ← match CommandLine.readArguments arguments with
    | .ok request => surveyRequest request working
    | .error _ => pure ⟨[], working, 0⟩
  let project : Project := { Project.empty working environment with store := store }
  let (outcome, after) := CommandLine.run project (← readClock environment) arguments
  match outcome with
  | .error failure =>
      writeBack after.store
      IO.eprintln failure.message
      return 1
  | .ok outcome =>
      writeBack after.store
      IO.print outcome.printed
      if let some error := outcome.usageError then IO.eprintln error
      return UInt32.ofNat outcome.exitCode

end Masthead

/-- The program. -/
def main (arguments : List String) : IO UInt32 := Masthead.runProgram arguments
