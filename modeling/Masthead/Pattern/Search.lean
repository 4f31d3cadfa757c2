import Masthead.Pattern.Basic

/-!
# Reading a text with a pattern

A pattern reads the front of a text and hands what is left to a continuation, which may refuse it.
Each reading is tried in order: repetitions from the longest to the shortest, or the other way
round for a lazy one, alternatives from the first to the second, an optional part before its
absence.  The first reading that the continuation takes is the answer.
-/

namespace Masthead

/-- The stretch of a text between two of its tails. -/
structure Stretch where
  front : Text
  rest : Text

namespace Stretch

def text (stretch : Stretch) : Text :=
  stretch.front.take (stretch.front.length - stretch.rest.length)

@[simp]
theorem text_append (text rest : Text) : Stretch.text ⟨text ++ rest, rest⟩ = text := by
  simp [Stretch.text]

end Stretch

namespace Pattern

variable {α : Type}

/-- Read an exact number of characters of a set. -/
def runTimes (set : CharSet) : Nat → Text → (Text → Option α) → Option α
  | 0, text, next => next text
  | _ + 1, [], _ => none
  | count + 1, c :: rest, next =>
      if set.accepts c then runTimes set count rest next else none

/-- Read as many characters of a set as there are, then one fewer at a time. -/
def runStar (set : CharSet) : Text → (Text → Option α) → Option α
  | [], next => next []
  | c :: rest, next =>
      if set.accepts c then runStar set rest next <|> next (c :: rest) else next (c :: rest)

/-- Read no character of a set, then one more at a time. -/
def runLazy (set : CharSet) : Text → (Text → Option α) → Option α
  | [], next => next []
  | c :: rest, next =>
      next (c :: rest) <|> (if set.accepts c then runLazy set rest next else none)

/-- Read a line break: both halves of a carriage return with its line feed, or a single one. -/
def runBreak : Text → (Text → Option α) → Option α
  | '\r' :: '\n' :: rest, next => next rest <|> next ('\n' :: rest)
  | '\r' :: rest, next => next rest
  | '\n' :: rest, next => next rest
  | _, _ => none

/-- The first reading of the front of a text that the continuation takes.  The continuation gets
the captured stretches in order and what is left of the text. -/
def run : Pattern → Text → (List Stretch → Text → Option α) → Option α
  | empty, text, next => next [] text
  | one set, text, next =>
      match text with
      | [] => none
      | c :: rest => if set.accepts c then next [] rest else none
  | times count set, text, next => runTimes set count text (next [])
  | star set, text, next => runStar set text (next [])
  | plus set, text, next =>
      match text with
      | [] => none
      | c :: rest => if set.accepts c then runStar set rest (next []) else none
  | lazyStar set, text, next => runLazy set text (next [])
  | lineBreak, text, next => runBreak text (next [])
  | sequence first second, text, next =>
      first.run text fun captures rest =>
        second.run rest fun more left => next (captures ++ more) left
  | either first second, text, next => first.run text next <|> second.run text next
  | optional body, text, next => body.run text next <|> next [] text
  | group body, text, next =>
      body.run text fun captures rest => next (⟨text, rest⟩ :: captures) rest

end Pattern

/-- What one segment reads: its text and the texts of its captures. -/
structure Piece where
  text : Text
  captures : List Text
  deriving DecidableEq

namespace Piece

/-- The first way for some patterns, one after the other, to read the front of a text and leave a
rest that `stop` takes. -/
def readAll (stop : Text → Bool) : List Pattern → Text → Option (List Piece)
  | [], text => if stop text then some [] else none
  | pattern :: others, text =>
      pattern.run text fun captures rest =>
        (readAll stop others rest).map
          (⟨Stretch.text ⟨text, rest⟩, captures.map Stretch.text⟩ :: ·)

/-- Some patterns read the front of a text. -/
def readFront (patterns : List Pattern) (text : Text) : Option (List Piece) :=
  readAll (fun _ => true) patterns text

def readWhole (patterns : List Pattern) (text : Text) : Option (List Piece) :=
  readAll List.isEmpty patterns text

def joined (pieces : List Piece) : Text := pieces.flatMap (·.text)

end Piece

end Masthead
