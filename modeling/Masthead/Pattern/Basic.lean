import Masthead.Text.Blank
import Masthead.Text.Digit
import Masthead.Text.Letter

/-!
# Patterns

A pattern says which texts a segment reads and in which order the readings are tried.  Repetition
is over sets of characters only, so reading a text with a pattern always ends.  Patterns have a
printed form in the usual notation of regular expressions, where a group that captures opens with
a bare parenthesis and every other one with `(?:`.
-/

namespace Masthead

/-- A set of characters. -/
inductive CharSet
  | blank
  | horizontalBlank
  | decimal
  | inLine
  | dash
  | letter (c : Char)
  deriving DecidableEq

namespace CharSet

/-- Whether a character is a hyphen, an en dash or an em dash. -/
def isDash (c : Char) : Bool := c == '-' || c == '–' || c == '—'

/-- Whether a set has a character; a letter stands for itself in either case. -/
def accepts : CharSet → Char → Bool
  | blank, c => isBlank c
  | horizontalBlank, c => isHorizontalBlank c
  | decimal, c => isDecimal c
  | inLine, c => c != '\n'
  | dash, c => isDash c
  | letter expected, c => sameLetter expected c

/-- The characters that a printed pattern writes after a backslash. -/
def reserved : List Char :=
  ['(', ')', '[', ']', '\x7b', '\x7d', '?', '*', '+', '-', '|', '^', '$', '\\', '.', '&', '~', '#',
   ' ', '\t', '\n', '\r', '\x0B', '\x0C']

def escape (c : Char) : Text := if reserved.contains c then ['\\', c] else [c]

def print : CharSet → Text
  | blank => ['\\', 's']
  | horizontalBlank => ['[', '^', '\\', 'S', '\\', 'r', '\\', 'n', ']']
  | decimal => ['\\', 'd']
  | inLine => ['.']
  | dash => ['[', '-', '–', '—', ']']
  | letter c => escape c

end CharSet

/-- What a segment may read. -/
inductive Pattern
  | empty
  | one (set : CharSet)
  | times (count : Nat) (set : CharSet)
  | star (set : CharSet)
  | plus (set : CharSet)
  | lazyStar (set : CharSet)
  | lineBreak
  | sequence (first second : Pattern)
  | either (first second : Pattern)
  | optional (body : Pattern)
  | group (body : Pattern)
  deriving DecidableEq

namespace Pattern

def print : Pattern → Text
  | empty => []
  | one set => set.print
  | times count set => set.print ++ '\x7b' :: Nat.toDigits 10 count ++ ['\x7d']
  | star set => set.print ++ ['*']
  | plus set => set.print ++ ['+']
  | lazyStar set => set.print ++ ['*', '?']
  | lineBreak => ['(', '?', ':', '\\', 'r', '\\', 'n', '|', '\\', 'r', '|', '\\', 'n', ')']
  | sequence first second => first.print ++ second.print
  | either first second =>
      ['(', '?', ':'] ++ first.print ++ '|' :: second.print ++ [')']
  | optional body => ['(', '?', ':'] ++ body.print ++ [')', '?']
  | group body => '(' :: body.print ++ [')']

def groups : Pattern → Nat
  | empty | one _ | times _ _ | star _ | plus _ | lazyStar _ | lineBreak => 0
  | sequence first second => first.groups + second.groups
  | either first second => first.groups + second.groups
  | optional body => body.groups
  | group body => body.groups + 1

/-- The patterns of a list one after the other. -/
def concat (patterns : List Pattern) : Pattern := patterns.foldr sequence empty

theorem concat_cons (pattern : Pattern) (patterns : List Pattern) :
    concat (pattern :: patterns) = sequence pattern (concat patterns) := rfl

end Pattern

end Masthead
