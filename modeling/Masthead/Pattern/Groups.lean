import Masthead.Pattern.Basic

/-!
# Capturing groups of a printed pattern

A printed pattern opens a capturing group with every parenthesis that neither follows a backslash
nor is followed by `?:`.  The main statement is that the printed form of a pattern opens exactly as
many groups as the pattern has, whatever is printed after it; so no literal opens one.
-/

namespace Masthead

/-- The number of capturing groups that a printed text opens. -/
def openings : Text → Nat
  | [] => 0
  | '\\' :: _ :: rest => openings rest
  | '(' :: '?' :: ':' :: rest => openings rest
  | '(' :: rest => openings rest + 1
  | _ :: rest => openings rest

attribute [local simp] openings

theorem openings_escaped (c : Char) (rest : Text) :
    openings ('\\' :: c :: rest) = openings rest := by
  rw [openings]

theorem openings_plain {c : Char} (noBackslash : c ≠ '\\') (noParenthesis : c ≠ '(')
    (rest : Text) : openings (c :: rest) = openings rest := by
  rw [openings] <;> simp_all

theorem openings_parenthesis {rest : Text} (capturing : rest.head? ≠ some '?') :
    openings ('(' :: rest) = openings rest + 1 := by
  rw [openings]
  intro tail shape
  simp [shape] at capturing

namespace CharSet

theorem escape_of_reserved {c : Char} (h : c ∈ reserved) : escape c = ['\\', c] := by
  simp [escape, h]

theorem escape_of_not_reserved {c : Char} (h : c ∉ reserved) : escape c = [c] := by
  simp [escape, h]

/-- The printed form of a set opens no group. -/
theorem openings_print_append (set : CharSet) (rest : Text) :
    openings (set.print ++ rest) = openings rest := by
  cases set with
  | letter c =>
    rw [print]
    by_cases h : c ∈ reserved
    · rw [escape_of_reserved h]
      exact openings_escaped c rest
    · rw [escape_of_not_reserved h]
      refine openings_plain ?_ ?_ rest
      · rintro rfl
        exact h (by decide)
      · rintro rfl
        exact h (by decide)
  | _ => simp [print]

/-- The printed form of a set does not begin with a question mark. -/
theorem head_print_append (set : CharSet) (rest : Text) :
    (set.print ++ rest).head? ≠ some '?' := by
  cases set with
  | letter c =>
    rw [print]
    by_cases h : c ∈ reserved
    · simp [escape_of_reserved h]
    · rw [escape_of_not_reserved h]
      intro same
      obtain rfl := Option.some.inj same
      exact h (by decide)
  | _ => simp [print]

end CharSet

namespace Pattern

/-- The printed form of a pattern begins with a question mark only if nothing is printed and what
follows begins with one. -/
theorem head_print_append (pattern : Pattern) {rest : Text} (h : rest.head? ≠ some '?') :
    (pattern.print ++ rest).head? ≠ some '?' := by
  induction pattern generalizing rest with
  | empty => exact h
  | sequence first second ihFirst ihSecond =>
    rw [print, List.append_assoc]
    exact ihFirst (ihSecond h)
  | one set => exact set.head_print_append _
  | times count set =>
    rw [print, List.append_assoc, List.append_assoc]
    exact set.head_print_append _
  | star set | plus set | lazyStar set =>
    rw [print, List.append_assoc]
    exact set.head_print_append _
  | lineBreak | either | optional | group => simp [print]

/-- The decimal digits of a count open no group. -/
theorem openings_digits_append (digits : Text) (all : ∀ c ∈ digits, c.isDigit = true)
    (rest : Text) : openings (digits ++ rest) = openings rest := by
  induction digits with
  | nil => rfl
  | cons c digits ih =>
    have digit := all c (by simp)
    rw [List.cons_append, openings_plain, ih fun d member => all d (by simp [member])]
    · rintro rfl
      simp at digit
    · rintro rfl
      simp at digit

/-- The printed form of a pattern opens the groups of the pattern, whatever follows it. -/
theorem openings_print_append (pattern : Pattern) (rest : Text) :
    openings (pattern.print ++ rest) = pattern.groups + openings rest := by
  induction pattern generalizing rest with
  | empty => simp [print, groups]
  | one set => simpa [print, groups] using set.openings_print_append rest
  | times count set =>
    have digits : ∀ c ∈ Nat.toDigits 10 count, c.isDigit = true :=
      fun c member => Nat.isDigit_of_mem_toDigits (by decide) (by decide) member
    simp [print, groups, CharSet.openings_print_append, openings_digits_append _ digits]
  | star set => simp [print, groups, CharSet.openings_print_append]
  | plus set => simp [print, groups, CharSet.openings_print_append]
  | lazyStar set => simp [print, groups, CharSet.openings_print_append]
  | lineBreak => simp [print, groups]
  | sequence first second ihFirst ihSecond =>
    rw [print, groups, List.append_assoc, ihFirst, ihSecond, Nat.add_assoc]
  | either first second ihFirst ihSecond =>
    simp [print, groups, ihFirst, ihSecond, Nat.add_assoc]
  | optional body ih => simp [print, groups, ih]
  | group body ih =>
    have capturing : (body.print ++ (')' :: rest)).head? ≠ some '?' :=
      body.head_print_append (by simp)
    simp only [print, groups, List.cons_append, List.append_assoc, List.nil_append]
    rw [openings_parenthesis capturing, ih, openings_plain (by decide) (by decide)]
    omega

/-- The printed form of a pattern opens exactly the groups of the pattern. -/
theorem openings_print (pattern : Pattern) : openings pattern.print = pattern.groups := by
  simpa using pattern.openings_print_append []

end Pattern

end Masthead
