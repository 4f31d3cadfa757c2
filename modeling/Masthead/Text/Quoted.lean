import Masthead.Text.Printable

/-!
# Quoted texts

A message shows a text between quotes.  The quotes are single, unless the text holds a single
quote and no double one.  A backslash, the quote in use, a line feed, a carriage return and a tab
are escaped by name, and every other character without a printed form by its code point.
-/

namespace Masthead

namespace Quoted

/-- A code point in lower case hexadecimal digits, padded with zeros to a width. -/
def hexadecimal (width code : Nat) : Text :=
  let digits := Nat.toDigits 16 code
  List.replicate (width - digits.length) '0' ++ digits

/-- The quote that encloses a text. -/
def delimiter (text : Text) : Char :=
  if text.contains '\'' && !text.contains '"' then '"' else '\''

/-- One character between quotes. -/
def escape (quote c : Char) : Text :=
  if c == '\\' || c == quote then ['\\', c]
  else if c == '\n' then ['\\', 'n']
  else if c == '\r' then ['\\', 'r']
  else if c == '\t' then ['\\', 't']
  else if isPrintable c then [c]
  else if c.toNat < 0x100 then ['\\', 'x'] ++ hexadecimal 2 c.toNat
  else if c.toNat < 0x10000 then ['\\', 'u'] ++ hexadecimal 4 c.toNat
  else ['\\', 'U'] ++ hexadecimal 8 c.toNat

def encode (text : Text) : Text :=
  let quote := delimiter text
  quote :: text.flatMap (escape quote) ++ [quote]

end Quoted

/-- A text as a message shows it. -/
def Text.quoted (text : Text) : String := Text.toString (Quoted.encode text)

def quoted (source : String) : String := Text.quoted (Text.ofString source)

end Masthead
