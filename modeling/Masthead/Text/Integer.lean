import Masthead.Text.Blank
import Masthead.Text.Digit
import Masthead.Text.Quoted

/-!
# Integers written in a text

An integer is a sign, if any, and decimal digits of any script.  Single underscores may separate
the digits and blanks may surround the whole.  Numerals of more than 4300 digits are refused by
their length.
-/

namespace Masthead

/-- Why a text does not write an integer. -/
inductive IntegerError
  | malformed (text : Text)
  | tooLong (digits : Nat)
  deriving DecidableEq

namespace IntegerError

/-- The wording of the error; a malformed text is quoted up to 200 characters. -/
def message : IntegerError → String
  | malformed text =>
      "invalid literal for int() with base 10: " ++ Text.toString ((Quoted.encode text).take 200)
  | tooLong digits =>
      "Exceeds the limit (4300 digits) for integer string conversion: value has " ++
        toString digits ++ " digits; use sys.set_int_max_str_digits() to increase the limit"

end IntegerError

namespace Integer

def maxDigits : Nat := 4300

/-- Whether a character may surround a numeral: a blank other than an information separator. -/
def isPadding (c : Char) : Bool :=
  isBlank c && !(0x1C ≤ c.toNat && c.toNat ≤ 0x1F)

/-- Whether a character belongs to a run of digits. -/
def inRun (c : Char) : Bool := isDecimal c || c == '_'

/-- Whether every underscore of a run stands between two digits. -/
def separatesDigits : (afterDigit : Bool) → Text → Bool
  | afterDigit, [] => afterDigit
  | afterDigit, c :: rest =>
      if c == '_' then afterDigit && separatesDigits false rest else separatesDigits true rest

def splitSign : Text → Int × Text
  | '-' :: rest => (-1, rest)
  | '+' :: rest => (1, rest)
  | rest => (1, rest)

def read (text : Text) : Except IntegerError Int :=
  let (sign, body) := splitSign (text.dropWhile isPadding)
  let run := body.takeWhile inRun
  let digits := run.countP isDecimal
  if !separatesDigits false run then .error (.malformed text)
  else if maxDigits < digits then .error (.tooLong digits)
  else if (body.dropWhile inRun).all isPadding then .ok (sign * decimalValue run)
  else .error (.malformed text)

end Integer

end Masthead
