import Masthead.Registry
import Masthead.Template.Basic
import Masthead.Text.LineBreak

/-!
# Reading template sources

A template source is literal text in which a doubled brace stands for itself and a name between
braces stands for the special segment registered under it.  The source is first cut into items;
each run of literal characters then becomes one text segment.  A source that ends in literal text
without a line break gets one, spelled like the first line break of the source.
-/

namespace Masthead

/-- Why a template source is refused, with the position of the brace at fault. -/
inductive ParseError
  | unclosedBrace (position : Nat)
  | strayBrace (position : Nat)
  | unknownSegment (name : Text) (position : Nat)
  | emptySource
  deriving DecidableEq

namespace ParseError

def message : ParseError → String
  | unclosedBrace _ => "Unescaped '\x7b' without closing '\x7d'"
  | strayBrace _ => "Unescaped '\x7d' without opening '\x7b'"
  | unknownSegment name _ => "Unrecognized special segment '" ++ name.toString ++ "'"
  | emptySource => "Template is empty"

/-- Where the error stands; an empty source has no position. -/
def position? : ParseError → Option Nat
  | unclosedBrace position => some position
  | strayBrace position => some position
  | unknownSegment _ position => some position
  | emptySource => none

end ParseError

/-- One item of a template source. -/
inductive Item
  | literal (c : Char)
  | special (segment : Segment)
  deriving DecidableEq

namespace Item

/-- The items of a source that begins at a position. -/
def readAt (registry : Registry) (position : Nat) : Text → Except ParseError (List Item)
  | [] => .ok []
  | '\x7b' :: '\x7b' :: rest =>
      (readAt registry (position + 2) rest).map (.literal '\x7b' :: ·)
  | '\x7d' :: '\x7d' :: rest =>
      (readAt registry (position + 2) rest).map (.literal '\x7d' :: ·)
  | '\x7d' :: _ => .error (.strayBrace position)
  | '\x7b' :: rest =>
      let name := rest.takeWhile (· != '\x7d')
      match _closing : rest.dropWhile (· != '\x7d') with
      | [] => .error (.unclosedBrace position)
      | _ :: after =>
          match registry.get? name with
          | none => .error (.unknownSegment name position)
          | some definition =>
              (readAt registry (position + name.length + 2) after).map
                (.special definition.segment :: ·)
  | c :: rest => (readAt registry (position + 1) rest).map (.literal c :: ·)
termination_by source => source.length
decreasing_by
  all_goals simp only [List.length_cons]
  all_goals try omega
  have dropped := (List.dropWhile_sublist (l := rest) (· != '\x7d')).length_le
  rw [_closing, List.length_cons] at dropped
  omega

/-- The text segment of a run of literal characters, read backwards; an empty run has none. -/
def closeRun (run : Text) : List Segment :=
  if run.isEmpty then [] else [.text run.reverse]

/-- The segments of some items that follow a run of literal characters, read backwards. -/
def segmentsAfter (run : Text) : List Item → List Segment
  | [] => closeRun run
  | .literal c :: rest => segmentsAfter (c :: run) rest
  | .special segment :: rest => closeRun run ++ segment :: segmentsAfter [] rest

def segments (items : List Item) : List Segment := segmentsAfter [] items

/-- The items with a line break at their end, if they end in another literal character. -/
def endLine (lineBreak : Text) (items : List Item) : List Item :=
  match items.getLast? with
  | some (.literal c) => if isLineEnd c then items else items ++ lineBreak.map .literal
  | _ => items

end Item

namespace Template

/-- The line break that a source spells first, or a line feed. -/
def lineBreakOf (source : Text) : Text := source.firstBreak?.getD ['\n']

def parse (source : Text) : Except ParseError Template := do
  let items ← Item.readAt Registry.standard 0 source
  let segments := Item.segments (Item.endLine (lineBreakOf source) items)
  if occupied : segments = [] then .error .emptySource else .ok ⟨segments, occupied⟩

end Template

end Masthead
