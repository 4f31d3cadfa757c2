import Masthead.Pattern.Search
import Masthead.Segment.Interpretation
import Masthead.Template.Pattern

/-!
# Finding a header

A template finds its header at the leftmost place in a text where its patterns read something.
A literal at the end of a template reads blanks greedily, so the header found may reach into what
follows it; it is cut back to the literal's own length when the patterns read the shorter header
too and no line break is torn apart.
-/

namespace Masthead

/-- A header in a text: how many characters precede it, and what each segment reads. -/
structure Found where
  start : Nat
  pieces : List Piece
  deriving DecidableEq

/-- A header in a text with its meaning: where it stands, and the outcome for each segment. -/
structure Match where
  start : Nat
  length : Nat
  results : List SegmentResult
  deriving DecidableEq

namespace Match

def stop (found : Match) : Nat := found.start + found.length

/-- Whether some segment is not spelled as it would be written. -/
def isInexact (found : Match) : Bool := found.results.any (·.isInexact)

def faults (found : Match) : List Fault := found.results.flatMap (·.faults)

def notices (found : Match) : List Notice := found.results.flatMap (·.notices)

/-- What the segments keep for writing the header anew. -/
def kept (found : Match) : List Kept := found.results.map (·.kept)

end Match

namespace Found

/-- The first place where some patterns read the front of a text, after some characters. -/
def searchFrom (patterns : List Pattern) (skipped : Nat) : Text → Option Found
  | [] => (Piece.readFront patterns []).map (⟨skipped, ·⟩)
  | c :: rest =>
      match Piece.readFront patterns (c :: rest) with
      | some pieces => some ⟨skipped, pieces⟩
      | none => searchFrom patterns (skipped + 1) rest

/-- Whether cutting a text at a position separates a carriage return from its line feed. -/
def tearsBreak (text : Text) (position : Nat) : Bool :=
  (text.take position).getLast? == some '\r' && text[position]? == some '\n'

/-- A header whose last piece is cut back to a number of characters. -/
def cutLast (found : Found) (last : Piece) (length : Nat) : Found :=
  ⟨found.start, found.pieces.dropLast ++ [⟨last.text.take length, last.captures⟩]⟩

/-- A header without the blanks that a last literal read beyond its own length. -/
def correct (segments : List Segment) (patterns : List Pattern) (found : Found) : Found :=
  match segments.getLast?, found.pieces.getLast? with
  | some (.text literal), some last =>
      let shorter := found.cutLast last literal.length
      if last.text.length ≤ literal.length || tearsBreak last.text literal.length then found
      else if (Piece.readWhole patterns (Piece.joined shorter.pieces)).isSome then shorter
      else found
  | _, _ => found

/-- The meanings of the pieces that some segments read. -/
def interpretAll (current : CurrentYear) :
    List Segment → List Piece → Except InterpretationError (List SegmentResult)
  | segment :: segments, piece :: pieces => do
      let result ← segment.interpret current piece.text piece.text.length piece.captures
      let results ← interpretAll current segments pieces
      .ok (result :: results)
  | _, _ => .ok []

end Found

namespace Template

def find? (template : Template) (text : Text) : Option Found :=
  let patterns := template.patterns
  (Found.searchFrom patterns 0 text).map (Found.correct template.segments patterns)

def match? (template : Template) (current : CurrentYear) (text : Text) :
    Except InterpretationError (Option Match) :=
  match template.find? text with
  | none => .ok none
  | some found => do
      let results ← Found.interpretAll current template.segments found.pieces
      .ok (some ⟨found.start, (Piece.joined found.pieces).length, results⟩)

end Template

end Masthead
