import Masthead.Text.Basic

/-!
# Blank characters

A blank is a character that shows nothing: the line ends, tabs, the information separators and
every Unicode space.  The zero width characters are not blanks.  A horizontal blank is a blank
that is neither a carriage return nor a line feed.
-/

namespace Masthead

def isBlank (c : Char) : Bool :=
  let code := c.toNat
  (0x9 ≤ code && code ≤ 0xD) || (0x1C ≤ code && code ≤ 0x20) || code == 0x85 || code == 0xA0 ||
    code == 0x1680 || (0x2000 ≤ code && code ≤ 0x200A) || code == 0x2028 || code == 0x2029 ||
    code == 0x202F || code == 0x205F || code == 0x3000

/-- Whether a character is a carriage return or a line feed. -/
def isLineEnd (c : Char) : Bool :=
  c == '\r' || c == '\n'

/-- Whether a character is a blank inside a line. -/
def isHorizontalBlank (c : Char) : Bool :=
  isBlank c && !isLineEnd c

theorem isBlank_of_isLineEnd {c : Char} (ends : isLineEnd c = true) : isBlank c = true := by
  simp only [isLineEnd, Bool.or_eq_true, beq_iff_eq] at ends
  rcases ends with rfl | rfl <;> rfl

theorem isBlank_of_isHorizontalBlank {c : Char} (horizontal : isHorizontalBlank c = true) :
    isBlank c = true := by
  simp only [isHorizontalBlank, Bool.and_eq_true] at horizontal
  exact horizontal.1

namespace Text

def trimLeft (text : Text) : Text := text.dropWhile isBlank

def trimRight : Text → Text
  | [] => []
  | c :: rest =>
      match trimRight rest with
      | [] => if isBlank c then [] else [c]
      | kept => c :: kept

def trim (text : Text) : Text := text.trimLeft.trimRight

theorem trimRight_cons_of_not_blank {c : Char} (shown : isBlank c = false) (rest : Text) :
    trimRight (c :: rest) = c :: trimRight rest := by
  rw [trimRight]
  split
  · rename_i empty
    simp [shown, empty]
  · rfl

theorem trimRight_trimRight (text : Text) : text.trimRight.trimRight = text.trimRight := by
  induction text with
  | nil => rfl
  | cons c rest ih =>
    rw [trimRight]
    split
    · split
      · rfl
      · rename_i shown
        rw [trimRight_cons_of_not_blank (by simpa using shown)]
        rfl
    · rename_i occupied
      rw [trimRight, ih]
      split
      · rename_i empty
        exact absurd empty occupied
      · rfl

/-- Trimming leaves no blank to trim. -/
theorem trim_trim (text : Text) : text.trim.trim = text.trim := by
  unfold trim trimLeft
  match front : text.dropWhile isBlank with
  | [] => rfl
  | c :: rest =>
    have shown : isBlank c = false := by
      have first := List.head_dropWhile_not isBlank (l := text) (by simp [front])
      simpa [front] using first
    rw [trimRight_cons_of_not_blank shown, List.dropWhile_cons_of_neg (by simp [shown]),
      ← trimRight_cons_of_not_blank shown, trimRight_trimRight]

/-- Whether a text shows nothing. -/
def isAllBlank (text : Text) : Bool := text.all isBlank

end Text

end Masthead
