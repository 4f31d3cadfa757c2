import Masthead.Text.Blank

/-!
# Line breaks

A line break is a carriage return with the line feed that follows it, or either of the two alone.
This module cuts a text into lines and unifies the spelling of its breaks.
-/

namespace Masthead

/-- One line of a text: what it shows, and the break that ends it, empty for a last line without
one. -/
structure Line where
  content : Text
  ending : Text
  deriving DecidableEq

namespace Text

/-- The line break at the front of a text, and what follows it. -/
def leadingBreak? : Text → Option (Text × Text)
  | '\r' :: '\n' :: rest => some (['\r', '\n'], rest)
  | '\r' :: rest => some (['\r'], rest)
  | '\n' :: rest => some (['\n'], rest)
  | _ => none

theorem eq_append_of_leadingBreak? {text found rest : Text}
    (h : leadingBreak? text = some (found, rest)) : text = found ++ rest := by
  unfold leadingBreak? at h
  split at h
  case h_4 => simp at h
  all_goals
    simp only [Option.some.injEq, Prod.mk.injEq] at h
    obtain ⟨rfl, rfl⟩ := h
    rfl

theorem length_of_leadingBreak? {text found rest : Text}
    (h : leadingBreak? text = some (found, rest)) : rest.length < text.length := by
  unfold leadingBreak? at h
  split at h
  case h_4 => simp at h
  all_goals
    simp only [Option.some.injEq, Prod.mk.injEq] at h
    obtain ⟨rfl, rfl⟩ := h
    simp only [List.length_cons]
    omega

def firstBreak? : Text → Option Text
  | [] => none
  | c :: rest =>
      match leadingBreak? (c :: rest) with
      | some (found, _) => some found
      | none => firstBreak? rest

/-- A text with every line break spelled as a line feed. -/
def unifyBreaks : Text → Text
  | [] => []
  | '\r' :: '\n' :: rest => '\n' :: unifyBreaks rest
  | '\r' :: rest => '\n' :: unifyBreaks rest
  | c :: rest => c :: unifyBreaks rest

def lines (text : Text) : List Line :=
  if text.isEmpty then []
  else
    let content := text.takeWhile (!isLineEnd ·)
    match _broken : leadingBreak? (text.dropWhile (!isLineEnd ·)) with
    | some (ending, rest) => ⟨content, ending⟩ :: lines rest
    | none => [⟨content, []⟩]
termination_by text.length
decreasing_by
  have shorter := length_of_leadingBreak? _broken
  have dropped := (List.dropWhile_sublist (l := text) (!isLineEnd ·)).length_le
  omega

end Text

end Masthead
