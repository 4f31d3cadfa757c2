import Masthead.Segment.Basic
import Masthead.Text.Integer
import Masthead.Text.Letter
import Masthead.Year

/-!
# What a segment's text means

Once a segment has read its part of a header, that part is compared with what the segment would
write: it may be inexact, wrong, or out of date.  A range of years is compared with its canonical
spelling: its two years with an en dash between them, or one year when the two are equal.  What the
user entered, a start year or a name, is kept for writing the header anew.
-/

namespace Masthead

def numeral (value : Int) : Text := (toString value).toList

/-- The canonical spelling of a year range. -/
def formatYearRange (start stop : Int) : Text :=
  if start == stop then numeral start else numeral start ++ '–' :: numeral stop

/-- Something wrong in a header. -/
inductive Fault
  | endBeforeStart (stop start : Int)
  | futureYear (year : Int) (current : CurrentYear)
  | blankName
  deriving DecidableEq

/-- Something in a header that has become out of date. -/
inductive Notice
  | staleYear (current : CurrentYear)
  deriving DecidableEq

def Fault.message : Fault → String
  | endBeforeStart stop start =>
      "The end year (" ++ toString stop ++ ") must be greater than or equal to the start year (" ++
        toString start ++ ")."
  | futureYear year current =>
      "The year " ++ toString year ++ " is invalid. The current year is " ++ toString current ++ "."
  | blankName => "Name must not be blank."

def Notice.message : Notice → String
  | staleYear current => "The current year is " ++ toString current ++ "."

/-- What a header's segment keeps of the user's entries. -/
inductive Kept
  | nothing
  | startYear (year : Int)
  | name (trimmed : Text)
  deriving DecidableEq

/-- The outcome of interpreting one segment's text. -/
structure SegmentResult where
  isInexact : Bool
  faults : List Fault
  notices : List Notice
  kept : Kept
  deriving DecidableEq

/-- Why a segment's text has no meaning: a year that is no number, or a year range without its
start year. -/
inductive InterpretationError
  | year (error : IntegerError)
  | missingStartYear
  deriving DecidableEq

def InterpretationError.message : InterpretationError → String
  | year error => error.message
  | missingStartYear => "tuple index out of range"

namespace Segment

/-- Whether two texts differ in length or, ignoring case, in any character. -/
def differs (expected actual : Text) : Bool :=
  expected.length != actual.length || expected.lower != actual.lower

def readYear (text : Text) : Except InterpretationError Int :=
  (Integer.read text).mapError .year

/-- The notice that a year lies before the current one. -/
def staleness (year : Int) (current : CurrentYear) : List Notice :=
  if year < current.value then [.staleYear current] else []

/-- The fault that a year lies after the current one. -/
def futurity (year : Int) (current : CurrentYear) : List Fault :=
  if (current.value : Int) < year then [.futureYear year current] else []

/-- The meaning of a year range from one year to another that is spelled as `text`. -/
def interpretRange (current : CurrentYear) (text : Text) (start stop : Int) : SegmentResult where
  isInexact := differs (formatYearRange start stop) text
  faults :=
    (if stop < start then [.endBeforeStart stop start] else []) ++ futurity stop current
  notices := staleness stop current
  kept := .startYear start

/-- The meaning of a name that is spelled as `text` over a given length. -/
def interpretName (text : Text) (length : Int) : SegmentResult :=
  let trimmed := text.trim
  { isInexact := (trimmed.length : Int) != length
    faults :=
      if trimmed.isEmpty || trimmed == Placeholder.standardText then [.blankName] else []
    notices := []
    kept := .name trimmed }

/-- The meaning of the text that a segment reads over a given length, with its captures. -/
def interpret (segment : Segment) (current : CurrentYear) (text : Text) (length : Int)
    (captures : List Text) : Except InterpretationError SegmentResult :=
  match segment with
  | .text literal => .ok ⟨differs literal text, [], [], .nothing⟩
  | .year => do
      let year ← readYear text
      .ok ⟨false, futurity year current, staleness year current, .nothing⟩
  | .yearRange =>
      match captures with
      | [] => .error .missingStartYear
      | [start] => do
          let start ← readYear start
          .ok (interpretRange current text start start)
      | start :: stop :: _ => do
          let start ← readYear start
          let stop ← readYear stop
          .ok (interpretRange current text start stop)
  | .name _ => .ok (interpretName text length)

end Segment

end Masthead
