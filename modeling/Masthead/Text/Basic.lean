/-!
# Texts

A text is the list of its characters, so every position and length counts characters.  This
module fixes that representation and the way a span of a text is cut out: an index below zero
counts from the end, and every index is clamped to the text.
-/

namespace Masthead

/-- A text, character by character. -/
abbrev Text := List Char

namespace Text

def ofString (source : String) : Text := source.toList

def toString (text : Text) : String := String.ofList text

@[simp]
theorem toString_ofString (source : String) : toString (ofString source) = source := by
  simp [toString, ofString]

@[simp]
theorem ofString_toString (text : Text) : ofString (toString text) = text := by
  simp [toString, ofString]

/-- The position an index stands for in a text of the given length. -/
def clamp (length : Nat) (index : Int) : Nat :=
  if index < 0 then (length + index).toNat else min index.toNat length

@[simp]
theorem clamp_ofNat (length index : Nat) : clamp length (index : Int) = min index length := by
  unfold clamp
  split <;> omega

/-- The part of a text before an index. -/
def upTo (text : Text) (stop : Int) : Text :=
  text.take (clamp text.length stop)

/-- The part of a text from an index on. -/
def startingAt (text : Text) (start : Int) : Text :=
  text.drop (clamp text.length start)

/-- The part of a text from one index up to another, empty when they are out of order. -/
def slice (text : Text) (start stop : Int) : Text :=
  (text.upTo stop).drop (clamp text.length start)

@[simp]
theorem upTo_ofNat (text : Text) (stop : Nat) : text.upTo (stop : Int) = text.take stop := by
  simp [upTo, List.take_eq_take_iff]

@[simp]
theorem startingAt_ofNat (text : Text) (start : Nat) :
    text.startingAt (start : Int) = text.drop start := by
  simp only [startingAt, clamp_ofNat]
  rcases Nat.le_total start text.length with h | h
  · rw [Nat.min_eq_left h]
  · rw [Nat.min_eq_right h, List.drop_length, List.drop_eq_nil_of_le h]

end Text

end Masthead
