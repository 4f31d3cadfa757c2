import Masthead.Text.Basic
import Masthead.Text.LetterTable

/-!
# Letters and their case

Two comparisons of letters are in use.  Matching compares characters one by one and ignores case
through `letterKey`, so one character never answers to several.  Exactness compares whole texts in
lower case, where a capital may become several characters and a final sigma has a form of its
own.  Names are compared by their folded form, which is the widest of the three.
-/

namespace Masthead

/-- The lower case of a character by itself. -/
def lowerChar (c : Char) : Char :=
  if c.toNat < 0x80 then c.toLower else (CodeRun.image? lowerRuns c).getD c

/-- The folded form of a character among single characters. -/
def foldChar (c : Char) : Char :=
  if c.toNat < 0x80 then c.toLower else (CodeRun.image? foldRuns c).getD (lowerChar c)

/-- The folded characters that count as one letter although folding keeps them apart: the dotless
i, two accented Greek vowels with two spellings each, and the ligature of a long s and a t. -/
def letterTwins : List (Char × Char) :=
  [('\u0131', 'i'), ('\u1FD3', '\u0390'), ('\u1FE3', '\u03B0'), ('\uFB06', '\uFB05')]

/-- The representative of a letter, whatever its case. -/
def letterKey (c : Char) : Char :=
  if c.toNat < 0x80 then c.toLower
  else
    let folded := foldChar c
    (letterTwins.lookup folded).getD folded

/-- Whether two characters are the same letter, ignoring case. -/
def sameLetter (expected actual : Char) : Bool :=
  letterKey expected == letterKey actual

@[simp]
theorem sameLetter_refl (c : Char) : sameLetter c c = true := by
  simp [sameLetter]

theorem sameLetter_symm {first second : Char} (same : sameLetter first second = true) :
    sameLetter second first = true := by
  simp only [sameLetter, beq_iff_eq] at same ⊢
  exact same.symm

theorem sameLetter_trans {first second third : Char}
    (left : sameLetter first second = true) (right : sameLetter second third = true) :
    sameLetter first third = true := by
  simp only [sameLetter, beq_iff_eq] at left right ⊢
  exact left.trans right

/-- Whether the word that a text continues, marks looked through, goes on with a cased letter. -/
def meetsCased (text : Text) : Bool :=
  match text.dropWhile (CodeRange.listed caseIgnorableRanges) with
  | [] => false
  | c :: _ => CodeRange.listed casedRanges c

/-- The lower case of a character between its neighbours; `before` is read backwards. -/
def lowerBetween (before : Text) (c : Char) (after : Text) : Text :=
  if c == '\u03A3' then
    [if meetsCased before && !meetsCased after then '\u03C2' else '\u03C3']
  else if c == '\u0130' then ['i', '\u0307']
  else [lowerChar c]

/-- The lower case of a text that follows `before`, read backwards. -/
def lowerAfter (before : Text) : Text → Text
  | [] => []
  | c :: rest => lowerBetween before c rest ++ lowerAfter (c :: before) rest

/-- The characters of an expansion table's entry. -/
def expansion? (table : List (Nat × List Nat)) (c : Char) : Option Text :=
  (table.lookup c.toNat).map (·.map Char.ofNat)

/-- The upper case of a character by itself, which may be several characters. -/
def upperChars (c : Char) : Text :=
  if c.toNat < 0x80 then [c.toUpper]
  else (expansion? upperExpansions c).getD [(CodeRun.image? upperRuns c).getD c]

/-- The folded form of a character, which may be several characters. -/
def foldChars (c : Char) : Text :=
  if c.toNat < 0x80 then [c.toLower] else (expansion? foldExpansions c).getD [foldChar c]

namespace Text

def lower (text : Text) : Text := lowerAfter [] text

def upper (text : Text) : Text := text.flatMap upperChars

/-- A text with every difference of case removed. -/
def fold (text : Text) : Text := text.flatMap foldChars

end Text

end Masthead
