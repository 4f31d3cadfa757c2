import Masthead.Text.Basic

/-!
# Decimal digits

A digit is a character of any script's decimal digits.  Each script has its ten digits in a row,
so the table lists the zeros only.
-/

namespace Masthead

/-- The code points of the zeros beyond the Latin one. -/
def scriptZeros : List Nat :=
  [0x660, 0x6F0, 0x7C0, 0x966, 0x9E6, 0xA66, 0xAE6, 0xB66, 0xBE6, 0xC66, 0xCE6, 0xD66, 0xDE6,
   0xE50, 0xED0, 0xF20, 0x1040, 0x1090, 0x17E0, 0x1810, 0x1946, 0x19D0, 0x1A80, 0x1A90, 0x1B50,
   0x1BB0, 0x1C40, 0x1C50, 0xA620, 0xA8D0, 0xA900, 0xA9D0, 0xA9F0, 0xAA50, 0xABF0, 0xFF10,
   0x104A0, 0x10D30, 0x11066, 0x110F0, 0x11136, 0x111D0, 0x112F0, 0x11450, 0x114D0, 0x11650,
   0x116C0, 0x11730, 0x118E0, 0x11950, 0x11C50, 0x11D50, 0x11DA0, 0x16A60, 0x16AC0, 0x16B50,
   0x1D7CE, 0x1D7D8, 0x1D7E2, 0x1D7EC, 0x1D7F6, 0x1E140, 0x1E2F0, 0x1E950, 0x1FBF0]

/-- The value of a decimal digit of any script. -/
def digitValue? (c : Char) : Option Nat :=
  if c.toNat < 0x80 then
    if c.isDigit then some (c.toNat - 0x30) else none
  else
    (scriptZeros.find? fun start => start ≤ c.toNat && c.toNat < start + 10).map (c.toNat - ·)

def isDecimal (c : Char) : Bool := (digitValue? c).isSome

theorem digitValue?_lt {c : Char} {value : Nat} (h : digitValue? c = some value) : value < 10 := by
  unfold digitValue? at h
  split at h
  · split at h
    · rename_i digit
      have bound : c.toNat ≤ 57 := by
        simp only [Char.isDigit, Bool.and_eq_true, decide_eq_true_eq] at digit
        exact digit.2
      simp only [Option.some.injEq] at h
      omega
    · simp at h
  · simp only [Option.map_eq_some_iff] at h
    obtain ⟨start, found, rfl⟩ := h
    have inside := List.find?_some found
    simp only [Bool.and_eq_true, decide_eq_true_eq] at inside
    omega

/-- Every Latin digit is a decimal. -/
theorem isDecimal_of_isDigit {c : Char} (digit : c.isDigit = true) : isDecimal c = true := by
  have bound : c.toNat ≤ 57 := by
    have both := digit
    simp only [Char.isDigit, Bool.and_eq_true, decide_eq_true_eq] at both
    exact both.2
  have low : c.toNat < 0x80 := by omega
  simp [isDecimal, digitValue?, low, digit]

/-- The number that a run of digits writes; other characters add nothing. -/
def decimalValue (digits : Text) : Nat :=
  digits.foldl (fun total c => match digitValue? c with
    | some value => total * 10 + value
    | none => total) 0

end Masthead
