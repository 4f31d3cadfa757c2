import Masthead.Text.Basic

/-!
# Paths

A path is read by its parts: repeated separators and single dots mean nothing, two dots are kept.
A path that begins with exactly two separators is set apart from one that begins with a single
one.
-/

namespace Masthead

/-- Where a path begins: at the working directory, or at one of the two roots. -/
inductive Anchor
  | here
  | root
  | doubleRoot
  deriving DecidableEq

/-- A path: where it begins, and its parts. -/
structure Path where
  anchor : Anchor
  parts : List String
  deriving DecidableEq

namespace Path

/-- The anchor that a number of leading separators stands for. -/
def anchorOf : Nat → Anchor
  | 0 => .here
  | 2 => .doubleRoot
  | _ => .root

/-- The parts of a written path, in order: the runs of characters between separators. -/
def splitParts : (run : Text) → Text → List Text
  | run, [] => [run.reverse]
  | run, c :: rest =>
      if c == '/' then run.reverse :: splitParts [] rest else splitParts (c :: run) rest

/-- Whether a part says nothing about where a path leads. -/
def isIdle (part : Text) : Bool := part == [] || part == ['.']

/-- The path that a string writes. -/
def ofString (source : String) : Path :=
  let text := Text.ofString source
  ⟨anchorOf (text.takeWhile (· == '/')).length,
    ((splitParts [] text).filter (!isIdle ·)).map Text.toString⟩

def Anchor.print : Anchor → String
  | .here => ""
  | .root => "/"
  | .doubleRoot => "//"

def toString (path : Path) : String :=
  if path.anchor == .here && path.parts.isEmpty then "."
  else Anchor.print path.anchor ++ String.intercalate "/" path.parts

instance : ToString Path := ⟨toString⟩

def name (path : Path) : String := path.parts.getLast?.getD ""

/-- The extension of a path: from the last dot of its name on, if that dot is neither the first
nor the last character. -/
def extension (path : Path) : String :=
  let backwards := path.name.toList.reverse
  let tail := backwards.takeWhile (· != '.')
  let stem := (backwards.dropWhile (· != '.')).drop 1
  if tail.isEmpty || stem.isEmpty then "" else String.ofList ('.' :: tail.reverse)

def child (path : Path) (part : String) : Path := ⟨path.anchor, path.parts ++ [part]⟩

/-- Whether one path comes no later than another in the order of their parts. -/
def comesBefore (first second : Path) : Bool :=
  !decide (second.parts < first.parts)

def endsWith (source ending : String) : Bool :=
  ending.toList.isSuffixOf source.toList

end Path

end Masthead
