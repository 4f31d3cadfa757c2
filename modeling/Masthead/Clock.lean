/-!
# Instants, zones and clocks

An instant is a number of seconds since the start of 1970 in universal time.  A zone shows it with
an offset of its own, which may change from one instant to another.  Dates are those of the
Gregorian calendar, also before it was in use.  Which zones there are is not settled here: they are
kept by the machine, and a clock brings them along with the instant that it shows.
-/

namespace Masthead

/-- A number of seconds since the start of 1970 in universal time. -/
structure Instant where
  seconds : Int
  deriving DecidableEq

/-- A date and a time of day. -/
structure CivilTime where
  year : Int
  month : Nat
  day : Nat
  hour : Nat
  minute : Nat
  second : Nat
  deriving DecidableEq

/-- A zone, by its name and the number of seconds that it is ahead of universal time at each
instant. -/
structure Zone where
  name : String
  ahead : Instant → Int

def Zone.universal : Zone := ⟨"UTC", fun _ => 0⟩

/-- The clock of a machine: the instant that it shows, and the zones that it knows by name. -/
structure Clock where
  now : Instant
  zone? : String → Option Zone

namespace CivilTime

/-- The number of days from the start of 1970 to a date.  Years are counted from March, so that a
leap day comes last. -/
def dayNumber (year : Int) (month day : Nat) : Int :=
  let shifted : Int := if month ≤ 2 then year - 1 else year
  let era := Int.fdiv shifted 400
  let yearOfEra := shifted - era * 400
  let monthFromMarch : Int := (month + 9) % 12
  let dayOfYear := (153 * monthFromMarch + 2) / 5 + day - 1
  let dayOfEra := yearOfEra * 365 + yearOfEra / 4 - yearOfEra / 100 + dayOfYear
  era * 146097 + dayOfEra - 719468

/-- The year, month and day of a number of days from the start of 1970. -/
def ofDayNumber (days : Int) : Int × Nat × Nat :=
  let shifted := days + 719468
  let era := Int.fdiv shifted 146097
  let dayOfEra := shifted - era * 146097
  let yearOfEra := (dayOfEra - dayOfEra / 1460 + dayOfEra / 36524 - dayOfEra / 146096) / 365
  let dayOfYear := dayOfEra - (365 * yearOfEra + yearOfEra / 4 - yearOfEra / 100)
  let monthFromMarch := (5 * dayOfYear + 2) / 153
  let day := dayOfYear - (153 * monthFromMarch + 2) / 5 + 1
  let month := if monthFromMarch < 10 then monthFromMarch + 3 else monthFromMarch - 9
  let year := yearOfEra + era * 400 + (if month ≤ 2 then 1 else 0)
  (year, month.toNat, day.toNat)

def toInstant (time : CivilTime) : Instant :=
  ⟨dayNumber time.year time.month time.day * 86400 +
    (time.hour * 3600 + time.minute * 60 + time.second : Nat)⟩

/-- A number in decimal digits, padded with zeros to a width. -/
def padded (width : Nat) (value : Nat) : String :=
  let digits := Nat.toDigits 10 value
  String.ofList (List.replicate (width - digits.length) '0' ++ digits)

def print (time : CivilTime) : String :=
  padded 4 time.year.toNat ++ "-" ++ padded 2 time.month ++ "-" ++ padded 2 time.day ++ "T" ++
    padded 2 time.hour ++ ":" ++ padded 2 time.minute ++ ":" ++ padded 2 time.second

end CivilTime

namespace Instant

/-- The numbers that the runs of digits in a text write; `run` holds the digits read so far. -/
def digitRuns : (run : Option Nat) → List Char → List Nat
  | run, [] => run.toList
  | run, c :: rest =>
      if c.isDigit then digitRuns (some (run.getD 0 * 10 + (c.toNat - '0'.toNat))) rest
      else run.toList ++ digitRuns none rest

/-- The instant of a date and time in universal time, given by its six numbers in order. -/
def read? (source : String) : Option Instant :=
  match digitRuns none source.toList with
  | [year, month, day, hour, minute, second] =>
      some (CivilTime.toInstant ⟨year, month, day, hour, minute, second⟩)
  | _ => none

/-- The date and time that a zone shows at an instant. -/
def civilIn (instant : Instant) (zone : Zone) : CivilTime :=
  let shown := instant.seconds + zone.ahead instant
  let days := Int.fdiv shown 86400
  let rest := (shown - days * 86400).toNat
  let (year, month, day) := CivilTime.ofDayNumber days
  ⟨year, month, day, rest / 3600, rest / 60 % 60, rest % 60⟩

/-- The year that a zone shows at an instant. -/
def yearIn (instant : Instant) (zone : Zone) : Int := (instant.civilIn zone).year

/-- The offset of a zone at an instant, signed, in hours and minutes, and in seconds if it has
any. -/
def printOffset (instant : Instant) (zone : Zone) : String :=
  let ahead := zone.ahead instant
  let size := ahead.natAbs
  (if ahead < 0 then "-" else "+") ++ CivilTime.padded 2 (size / 3600) ++ ":" ++
    CivilTime.padded 2 (size / 60 % 60) ++
      if size % 60 = 0 then "" else ":" ++ CivilTime.padded 2 (size % 60)

/-- An instant as a zone shows it, with the zone's offset. -/
def printIn (instant : Instant) (zone : Zone) : String :=
  (instant.civilIn zone).print ++ instant.printOffset zone

end Instant

end Masthead
