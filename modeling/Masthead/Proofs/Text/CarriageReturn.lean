import Mathlib.Data.List.Induction
import Masthead.Segment.Language

/-!
# Line feeds with carriage returns

A text is given the line breaks of another platform by putting a carriage return before each of its
line feeds.  A text that had no carriage return before can be recovered from every part that is not
cut between the two halves of such a break.
-/

namespace Masthead

namespace Text

/-- A text with a carriage return before each line feed. -/
def withReturns (text : Text) : Text :=
  text.flatMap fun c => if c == '\n' then ['\r', '\n'] else [c]

@[simp]
theorem withReturns_nil : withReturns [] = [] := rfl

@[simp]
theorem withReturns_append (front back : Text) :
    withReturns (front ++ back) = front.withReturns ++ back.withReturns :=
  List.flatMap_append

@[simp]
theorem withReturns_feed (rest : Text) :
    withReturns ('\n' :: rest) = '\r' :: '\n' :: rest.withReturns := rfl

theorem withReturns_cons
    {c : Char}
    (plain : c ≠ '\n')
    (rest : Text) :
    withReturns (c :: rest) = c :: rest.withReturns := by
  simp [withReturns, plain]

theorem withReturns_cons_of_shown
    {c : Char}
    (shown : isBlank c = false)
    (rest : Text) :
    withReturns (c :: rest) = c :: rest.withReturns := by
  apply withReturns_cons
  rintro rfl
  cases shown

theorem withReturns_eq_self
    {text : Text}
    (plain : '\n' ∉ text) :
    text.withReturns = text := by
  induction text with
  | nil => rfl
  | cons c rest ih =>
    rw [List.mem_cons, not_or] at plain
    rw [withReturns_cons (Ne.symm plain.1), ih plain.2]

theorem length_withReturns (text : Text) :
    text.withReturns.length = text.length + text.count '\n' := by
  induction text with
  | nil => rfl
  | cons c rest ih =>
    by_cases feed : c = '\n'
    · rw [feed, withReturns_feed, List.count_cons_self]
      simp only [List.length_cons, ih]
      omega
    · rw [withReturns_cons feed, List.count_cons_of_ne feed]
      simp only [List.length_cons, ih]
      omega

theorem within_withReturns
    {test : Char → Bool} {text : Text}
    (passes : test '\r' = true)
    (within : text.Within test) :
    text.withReturns.Within test := by
  intro c member
  rcases List.mem_flatMap.1 member with ⟨d, inside, spelled⟩
  split at spelled
  · rename_i feed
    rw [beq_iff_eq] at feed
    rcases List.mem_cons.1 spelled with rfl | last
    · exact passes
    · rw [List.mem_singleton.1 last, ← feed]
      exact within d inside
  · rw [List.mem_singleton.1 spelled]
    exact within d inside

/-- The last character stays the last. -/
theorem getLast?_withReturns (text : Text) : text.withReturns.getLast? = text.getLast? := by
  induction text using List.reverseRecOn with
  | nil => rfl
  | append_singleton text c _ =>
    rw [withReturns_append, List.getLast?_append, List.getLast?_append]
    by_cases feed : c = '\n'
    · rw [feed]
      rfl
    · rw [withReturns_cons feed]
      rfl

theorem trimLeft_withReturns (text : Text) :
    text.withReturns.trimLeft = text.trimLeft.withReturns := by
  induction text with
  | nil => rfl
  | cons c rest ih =>
    by_cases feed : c = '\n'
    · subst feed
      exact ih
    · rw [withReturns_cons feed]
      by_cases blank : isBlank c = true
      · rw [trimLeft, trimLeft, List.dropWhile_cons_of_pos blank, List.dropWhile_cons_of_pos blank]
        exact ih
      · rw [trimLeft, trimLeft, List.dropWhile_cons_of_neg blank, List.dropWhile_cons_of_neg blank,
          withReturns_cons feed]

/-- Line ends come in pairs. -/
theorem countP_isLineEnd_withReturns
    {text : Text}
    (plain : '\r' ∉ text) :
    text.withReturns.countP isLineEnd = 2 * text.count '\n' := by
  induction text with
  | nil => rfl
  | cons c rest ih =>
    rw [List.mem_cons, not_or] at plain
    by_cases feed : c = '\n'
    · subst feed
      rw [withReturns_feed, List.countP_cons_of_pos rfl, List.countP_cons_of_pos rfl, ih plain.2,
        List.count_cons_self]
      omega
    · have shown : ¬ isLineEnd c = true := by
        simp [isLineEnd, feed, Ne.symm plain.1]
      rw [withReturns_cons feed, List.countP_cons_of_neg shown, ih plain.2,
        List.count_cons_of_ne feed]

/-- A cut that does not separate the halves of a break is a cut of the text before. -/
theorem exists_append_of_withReturns
    {text front back : Text}
    (place : text.withReturns = front ++ back)
    (untorn : ¬ (front.getLast? = some '\r' ∧ back.head? = some '\n')) :
    ∃ kept cut : Text, text = kept ++ cut ∧ front = kept.withReturns ∧ back = cut.withReturns := by
  induction text generalizing front with
  | nil =>
    rcases List.append_eq_nil_iff.1 place.symm with ⟨rfl, rfl⟩
    exact ⟨[], [], rfl, rfl, rfl⟩
  | cons c rest ih =>
    cases front with
    | nil => exact ⟨[], c :: rest, rfl, rfl, place.symm⟩
    | cons d front =>
      have tail : ∀ front' : Text, front' <:+ front →
          ¬ (front'.getLast? = some '\r' ∧ back.head? = some '\n') := by
        rintro front' ⟨before, rfl⟩ ⟨last, next⟩
        apply untorn
        rw [List.getLast?_cons, List.getLast?_append, last]
        exact ⟨rfl, next⟩
      by_cases feed : c = '\n'
      · subst feed
        rw [withReturns_feed, List.cons_append, List.cons.injEq] at place
        rcases place with ⟨rfl, place⟩
        cases front with
        | nil =>
          rw [List.nil_append] at place
          exact absurd ⟨rfl, by rw [← place]; rfl⟩ untorn
        | cons e front =>
          rw [List.cons_append, List.cons.injEq] at place
          rcases place with ⟨rfl, place⟩
          rcases ih place (tail front (List.suffix_cons _ front)) with
            ⟨kept, cut, rfl, rfl, rfl⟩
          exact ⟨'\n' :: kept, cut, rfl, rfl, rfl⟩
      · rw [withReturns_cons feed, List.cons_append, List.cons.injEq] at place
        rcases place with ⟨rfl, place⟩
        rcases ih place (tail front List.suffix_rfl) with ⟨kept, cut, rfl, rfl, rfl⟩
        exact ⟨c :: kept, cut, rfl, (withReturns_cons feed kept).symm, rfl⟩

end Text

end Masthead
