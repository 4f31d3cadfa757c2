import Masthead.Segment.Pattern
import Masthead.Template.Basic

/-!
# The composite pattern of a template

A template reads what its segments read one after the other.  In the printed form each segment
stands in a named group of its own, and groups are numbered by their opening parentheses: first
the group of the segment, then those inside it.
-/

namespace Masthead

namespace Pattern

/-- The printed form of a pattern in a group named after a segment's index. -/
def printNamed (index : Nat) (pattern : Pattern) : Text :=
  "(?P<segment".toList ++ Nat.toDigits 10 index ++ '>' :: pattern.print ++ [')']

/-- The printed form of the patterns of consecutive segments. -/
def printFrom (index : Nat) : List Pattern → Text
  | [] => []
  | pattern :: rest => pattern.printNamed index ++ printFrom (index + 1) rest

/-- The numbers of each segment's own group and of the groups inside it, from a next number on. -/
def numberFrom (next : Nat) : List Pattern → List (Nat × List Nat)
  | [] => []
  | pattern :: rest =>
      (next, List.range' (next + 1) pattern.groups) ::
        numberFrom (next + pattern.groups + 1) rest

end Pattern

namespace Template

def patterns (template : Template) : List Pattern := template.segments.map Segment.pattern

def printedPattern (template : Template) : Text := Pattern.printFrom 0 template.patterns

def groupNumbers (template : Template) : List (Nat × List Nat) :=
  Pattern.numberFrom 1 template.patterns

end Template

end Masthead
