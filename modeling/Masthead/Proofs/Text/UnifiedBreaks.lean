import Mathlib.Data.List.Basic
import Masthead.Text.LineBreak

/-!
# Unified line breaks

Unifying the line breaks of a text spells each of them as a line feed.  A carriage return becomes a
line feed, or vanishes when a line feed follows it; every other character stays.  So the two halves
of a text can be unified one by one unless the cut tears a break apart.
-/

namespace Masthead

namespace Text

@[simp]
theorem unifyBreaks_nil : unifyBreaks [] = [] := rfl

theorem unifyBreaks_cons
    {c : Char}
    (plain : c ≠ '\r')
    (rest : Text) :
    unifyBreaks (c :: rest) = c :: rest.unifyBreaks := by
  rw [unifyBreaks]
  · rintro _ rfl
    exact absurd rfl plain
  · exact plain

/-- A carriage return before a line feed vanishes. -/
theorem unifyBreaks_return_feed
    {rest : Text}
    (feed : rest.head? = some '\n') :
    unifyBreaks ('\r' :: rest) = rest.unifyBreaks := by
  rcases List.head?_eq_some_iff.1 feed with ⟨rest, rfl⟩
  rfl

/-- Any other carriage return becomes a line feed. -/
theorem unifyBreaks_return
    {rest : Text}
    (noFeed : rest.head? ≠ some '\n') :
    unifyBreaks ('\r' :: rest) = '\n' :: rest.unifyBreaks := by
  rw [unifyBreaks]
  rintro _ rfl
  exact noFeed rfl

theorem notMem_unifyBreaks (text : Text) : '\r' ∉ text.unifyBreaks := by
  fun_induction unifyBreaks text with
  | case1 => simp
  | case2 rest ih => simp [ih]
  | case3 rest _ ih => simp [ih]
  | case4 c rest _ plain ih =>
    rw [List.mem_cons, not_or]
    exact ⟨fun same => plain same.symm, ih⟩

theorem unifyBreaks_eq_self
    {text : Text}
    (plain : '\r' ∉ text) :
    text.unifyBreaks = text := by
  induction text with
  | nil => rfl
  | cons c rest ih =>
    rw [List.mem_cons, not_or] at plain
    rw [unifyBreaks_cons (Ne.symm plain.1), ih plain.2]

theorem unifyBreaks_eq_self_iff {text : Text} : text.unifyBreaks = text ↔ '\r' ∉ text := by
  constructor
  · intro same
    rw [← same]
    exact notMem_unifyBreaks text
  · exact unifyBreaks_eq_self

/-- Two parts of a text are unified one by one unless the cut between them tears a break apart. -/
theorem unifyBreaks_append
    {front back : Text}
    (whole : front.getLast? = some '\r' → back.head? ≠ some '\n') :
    unifyBreaks (front ++ back) = front.unifyBreaks ++ back.unifyBreaks := by
  induction front with
  | nil => rfl
  | cons c front ih =>
    cases front with
    | nil =>
      by_cases return_ : c = '\r'
      · subst return_
        exact unifyBreaks_return (whole rfl)
      · rw [List.singleton_append, unifyBreaks_cons return_, unifyBreaks_cons return_]
        rfl
    | cons d front =>
      have others := ih (by simpa using whole)
      rw [List.cons_append]
      by_cases return_ : c = '\r'
      · subst return_
        by_cases feed : d = '\n'
        · subst feed
          rw [unifyBreaks_return_feed rfl, unifyBreaks_return_feed rfl, others]
        · have noFeed : (d :: front).head? ≠ some '\n' := by simpa using feed
          have noFeedToo : (d :: front ++ back).head? ≠ some '\n' := by simpa using feed
          rw [unifyBreaks_return noFeedToo, unifyBreaks_return noFeed, others, List.cons_append]
      · rw [unifyBreaks_cons return_, unifyBreaks_cons return_, others, List.cons_append]

theorem unifyBreaks_append_of_notMem
    {front : Text}
    (plain : '\r' ∉ front)
    (back : Text) :
    unifyBreaks (front ++ back) = front ++ back.unifyBreaks := by
  rw [unifyBreaks_append fun last => absurd (List.mem_of_getLast? last) plain,
    unifyBreaks_eq_self plain]

theorem unifyBreaks_eq_nil_iff {text : Text} : text.unifyBreaks = [] ↔ text = [] := by
  fun_cases unifyBreaks text with
  | case1 => simp
  | case2 | case3 | case4 => simp

/-- A text whose line breaks are unified ends in a line feed where it ended a line. -/
theorem getLast?_unifyBreaks (text : Text) :
    text.unifyBreaks.getLast? =
      text.getLast?.map fun c => if isLineEnd c then '\n' else c := by
  fun_induction unifyBreaks text with
  | case1 => rfl
  | case2 rest ih =>
    rw [List.getLast?_cons, ih, List.getLast?_cons_cons, List.getLast?_cons]
    cases rest.getLast? with
    | none => rfl
    | some c => rfl
  | case3 rest _ ih =>
    rw [List.getLast?_cons, ih, List.getLast?_cons]
    cases rest.getLast? with
    | none => rfl
    | some c => rfl
  | case4 c rest _ plain ih =>
    rw [List.getLast?_cons, ih, List.getLast?_cons]
    cases rest.getLast? with
    | none =>
      by_cases feed : c = '\n'
      · subst feed
        rfl
      · have within : isLineEnd c = false := by simpa [isLineEnd, feed] using plain
        simp [within]
    | some d => rfl

theorem any_isLineEnd_getLast?_unifyBreaks (text : Text) :
    text.unifyBreaks.getLast?.any isLineEnd = text.getLast?.any isLineEnd := by
  rw [getLast?_unifyBreaks]
  cases text.getLast? with
  | none => rfl
  | some c =>
    rw [Option.map_some, Option.any_some, Option.any_some]
    split
    · rename_i isEnd
      rw [isEnd]
      rfl
    · rfl

/-- Unifying turns every carriage return into a line feed or leaves one behind it. -/
theorem notMem_of_feed_notMem_unifyBreaks
    {text : Text}
    (noFeed : '\n' ∉ text.unifyBreaks) :
    '\r' ∉ text := by
  fun_induction unifyBreaks text with
  | case1 => simp
  | case2 rest _ => exact absurd List.mem_cons_self noFeed
  | case3 rest _ _ => exact absurd List.mem_cons_self noFeed
  | case4 c rest _ plain ih =>
    rw [List.mem_cons, not_or] at noFeed ⊢
    exact ⟨fun same => plain same.symm, ih noFeed.2⟩

/-- Characters that end no line are kept, and no others come in. -/
theorem mem_unifyBreaks_iff
    {c : Char}
    (within : isLineEnd c = false)
    (text : Text) :
    c ∈ text.unifyBreaks ↔ c ∈ text := by
  have noReturn : c ≠ '\r' := by
    rintro rfl
    cases within
  have noFeed : c ≠ '\n' := by
    rintro rfl
    cases within
  fun_induction unifyBreaks text with
  | case1 => rfl
  | case2 rest ih => simp [noReturn, noFeed, ih]
  | case3 rest _ ih => simp [noReturn, noFeed, ih]
  | case4 d rest _ _ ih => simp [ih]

theorem head?_unifyBreaks_ne
    {c : Char} {text : Text}
    (within : isLineEnd c = false)
    (other : text.head? ≠ some c) :
    text.unifyBreaks.head? ≠ some c := by
  have noFeed : '\n' ≠ c := by
    rintro rfl
    cases within
  fun_cases unifyBreaks text with
  | case1 => simp
  | case2 rest => simpa using noFeed
  | case3 rest => simpa using noFeed
  | case4 d rest _ plain => exact other

end Text

end Masthead
