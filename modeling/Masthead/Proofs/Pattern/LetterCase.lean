import Masthead.Proofs.Text.LetterCase

/-!
# Reading in either case

A text and the same text without its Latin capitals are read alike by every pattern: the same
readings are tried in the same order, and what is captured differs by the capitals only.  Patterns
that read every text alike may be exchanged for each other in a sequence.
-/

namespace Masthead

/-- A set has a Latin letter in both cases or in none. -/
theorem CharSet.accepts_toLower (set : CharSet) (c : Char) :
    set.accepts c.toLower = set.accepts c := by
  cases set with
  | blank => exact isBlank_toLower c
  | horizontalBlank => exact isHorizontalBlank_toLower c
  | decimal => exact isDecimal_toLower c
  | inLine => exact observe_toLower (· != '\n') (by decide +kernel) c
  | dash => exact isDash_toLower c
  | letter expected => rw [accepts, accepts, sameLetter, sameLetter, letterKey_toLower]

/-- A stretch of the text without its Latin capitals. -/
def Stretch.withoutCapitals (stretch : Stretch) : Stretch :=
  ⟨stretch.front.withoutCapitals, stretch.rest.withoutCapitals⟩

theorem Stretch.text_withoutCapitals (stretch : Stretch) :
    stretch.withoutCapitals.text = stretch.text.withoutCapitals := by
  simp [Stretch.text, withoutCapitals]

namespace Pattern

variable {α β : Type} {f : α → β}

theorem map_orElse (first second : Option α) :
    (first <|> second).map f = (first.map f <|> second.map f) := by
  cases first <;> rfl

theorem runBreak_of_not_isLineEnd
    {c : Char} {rest : Text} {next : Text → Option α}
    (plain : isLineEnd c = false) :
    runBreak (c :: rest) next = none := by
  rw [isLineEnd, Bool.or_eq_false_iff, beq_eq_false_iff_ne, beq_eq_false_iff_ne] at plain
  rw [runBreak] <;> simp_all

section Repetition

variable {set : CharSet} {next : Text → Option α} {nextToo : Text → Option β}
  (continued : ∀ rest : Text, nextToo rest.withoutCapitals = (next rest).map f)
include continued

theorem runTimes_withoutCapitals (count : Nat) (text : Text) :
    runTimes set count text.withoutCapitals nextToo = (runTimes set count text next).map f := by
  induction count generalizing text with
  | zero => exact continued text
  | succ count ih =>
    cases text with
    | nil => rfl
    | cons c rest =>
      rw [Text.withoutCapitals_cons, runTimes, runTimes, set.accepts_toLower]
      split
      · exact ih rest
      · rfl

theorem runStar_withoutCapitals (text : Text) :
    runStar set text.withoutCapitals nextToo = (runStar set text next).map f := by
  induction text with
  | nil => exact continued []
  | cons c rest ih =>
    rw [Text.withoutCapitals_cons, runStar, runStar, set.accepts_toLower,
      ← Text.withoutCapitals_cons]
    split
    · rw [map_orElse, ih, continued]
    · exact continued (c :: rest)

theorem runLazy_withoutCapitals (text : Text) :
    runLazy set text.withoutCapitals nextToo = (runLazy set text next).map f := by
  induction text with
  | nil => exact continued []
  | cons c rest ih =>
    rw [Text.withoutCapitals_cons, runLazy, runLazy, set.accepts_toLower,
      ← Text.withoutCapitals_cons, map_orElse, continued]
    split
    · rw [ih]
    · rfl

theorem runBreak_withoutCapitals (text : Text) :
    runBreak text.withoutCapitals nextToo = (runBreak text next).map f := by
  fun_cases runBreak text next with
  | case1 =>
    rw [map_orElse, ← continued, ← continued]
    rfl
  | case2 rest _ single =>
    rw [← continued]
    show runBreak ('\r' :: Text.withoutCapitals rest) nextToo = _
    rw [runBreak]
    intro tail shape
    have feed : rest.head? = some '\n' := by
      rw [← Text.head?_withoutCapitals_eq_feed_iff, shape]
      rfl
    rcases List.head?_eq_some_iff.1 feed with ⟨tail, rfl⟩
    exact single tail rfl
  | case3 rest => exact continued rest
  | case4 _ _ _ noReturn noFeed =>
    cases text with
    | nil => rfl
    | cons c rest =>
      have plain : isLineEnd c = false := by
        simp only [isLineEnd, Bool.or_eq_false_iff, beq_eq_false_iff_ne]
        exact ⟨fun same => noReturn rest (by rw [same]), fun same => noFeed rest (by rw [same])⟩
      rw [Text.withoutCapitals_cons, runBreak_of_not_isLineEnd (by rwa [isLineEnd_toLower])]
      rfl

end Repetition

/-- A pattern reads a text without Latin capitals as it reads the text. -/
theorem run_withoutCapitals
    {pattern : Pattern} {text : Text}
    {next : List Stretch → Text → Option α} {nextToo : List Stretch → Text → Option β}
    (continued : ∀ captures rest,
      nextToo (captures.map Stretch.withoutCapitals) (Text.withoutCapitals rest) =
        (next captures rest).map f) :
    pattern.run text.withoutCapitals nextToo = (pattern.run text next).map f := by
  induction pattern generalizing text next nextToo with
  | empty => exact continued [] text
  | one set =>
    cases text with
    | nil => rfl
    | cons c rest =>
      simp only [Text.withoutCapitals_cons, run, set.accepts_toLower]
      split
      · exact continued [] rest
      · rfl
  | times count set => exact runTimes_withoutCapitals (continued []) count text
  | star set => exact runStar_withoutCapitals (continued []) text
  | plus set =>
    cases text with
    | nil => rfl
    | cons c rest =>
      simp only [Text.withoutCapitals_cons, run, set.accepts_toLower]
      split
      · exact runStar_withoutCapitals (continued []) rest
      · rfl
  | lazyStar set => exact runLazy_withoutCapitals (continued []) text
  | lineBreak => exact runBreak_withoutCapitals (continued []) text
  | sequence first second ihFirst ihSecond =>
    apply ihFirst
    intro captures rest
    apply ihSecond
    intro more left
    rw [← List.map_append]
    exact continued (captures ++ more) left
  | either first second ihFirst ihSecond =>
    rw [run, run, map_orElse, ihFirst continued, ihSecond continued]
  | optional body ih =>
    rw [run, run, map_orElse, ih continued]
    congr 1
    exact funext fun _ => continued [] text
  | group body ih =>
    apply ih
    intro captures rest
    exact continued (⟨text, rest⟩ :: captures) rest

/-- Take the end of a text, and nothing else. -/
def atEnd (_ : List Stretch) (rest : Text) : Option Unit :=
  if rest.isEmpty then some () else none

theorem accepts_iff_isSome_run {pattern : Pattern} {text : Text} :
    pattern.Accepts text ↔ (pattern.run text atEnd).isSome = true := by
  constructor
  · intro accepted
    have read : (pattern.run (text ++ []) atEnd).isSome = true :=
      run_isSome accepted fun _ => rfl
    rwa [List.append_nil] at read
  · intro read
    rcases Option.isSome_iff_exists.1 read with ⟨_, read⟩
    rcases exists_reads_of_run read with ⟨front, captures, rest, rfl, reads, taken⟩
    cases rest with
    | nil =>
      rw [List.append_nil]
      exact reads.accepts
    | cons c rest => cases taken

/-- A text belongs to the language of a pattern in either case. -/
theorem accepts_withoutCapitals_iff {pattern : Pattern} {text : Text} :
    pattern.Accepts text.withoutCapitals ↔ pattern.Accepts text := by
  have same : pattern.run text.withoutCapitals atEnd = (pattern.run text atEnd).map id := by
    apply run_withoutCapitals
    intro captures rest
    rw [Option.map_id, atEnd, atEnd, Text.withoutCapitals, List.isEmpty_map]
    rfl
  rw [accepts_iff_isSome_run, accepts_iff_isSome_run, same, Option.map_id]
  rfl

/-! ## Patterns that read alike -/

/-- Two patterns try the same readings of every text in the same order. -/
def RunsLike (first second : Pattern) : Prop :=
  ∀ {α : Type} (text : Text) (next : List Stretch → Text → Option α),
    first.run text next = second.run text next

theorem RunsLike.refl (pattern : Pattern) : pattern.RunsLike pattern := fun _ _ => rfl

/-- A letter reads as its small letter does. -/
theorem runsLike_one_letter (c : Char) :
    (one (.letter c.toLower)).RunsLike (one (.letter c)) := by
  intro α text next
  cases text with
  | nil => rfl
  | cons d rest =>
    have same : CharSet.accepts (.letter c.toLower) d = CharSet.accepts (.letter c) d := by
      rw [CharSet.accepts, CharSet.accepts, sameLetter, sameLetter, letterKey_toLower]
    simp only [run, same]

theorem RunsLike.concat
    {patterns others : List Pattern}
    (alike : List.Forall₂ RunsLike patterns others) :
    (Pattern.concat patterns).RunsLike (Pattern.concat others) := by
  induction alike with
  | nil => exact RunsLike.refl _
  | cons first _ ih =>
    intro α text next
    rw [concat_cons, concat_cons, run, run, first]
    congr 1
    exact funext fun captures => funext fun rest => ih rest _

end Pattern

namespace Piece

/-- A piece of a text without its Latin capitals. -/
def withoutCapitals (piece : Piece) : Piece :=
  ⟨piece.text.withoutCapitals, piece.captures.map Text.withoutCapitals⟩

variable {stop : Text → Bool}

theorem readAll_withoutCapitals
    (unchanged : ∀ text : Text, stop text.withoutCapitals = stop text)
    (patterns : List Pattern) (text : Text) :
    readAll stop patterns text.withoutCapitals =
      (readAll stop patterns text).map (List.map withoutCapitals) := by
  induction patterns generalizing text with
  | nil =>
    rw [readAll, readAll, unchanged]
    split <;> rfl
  | cons pattern patterns ih =>
    apply Pattern.run_withoutCapitals
    intro captures rest
    rw [ih, Option.map_map, Option.map_map]
    congr 1
    funext pieces
    have front : Stretch.text ⟨text.withoutCapitals, rest.withoutCapitals⟩ =
        Text.withoutCapitals (Stretch.text ⟨text, rest⟩) :=
      Stretch.text_withoutCapitals ⟨text, rest⟩
    simp [withoutCapitals, front, Function.comp_def, Stretch.text_withoutCapitals]

theorem readFront_withoutCapitals (patterns : List Pattern) (text : Text) :
    readFront patterns text.withoutCapitals =
      (readFront patterns text).map (List.map withoutCapitals) :=
  readAll_withoutCapitals (fun _ => rfl) patterns text

theorem readWhole_withoutCapitals (patterns : List Pattern) (text : Text) :
    readWhole patterns text.withoutCapitals =
      (readWhole patterns text).map (List.map withoutCapitals) :=
  readAll_withoutCapitals (fun _ => List.isEmpty_map) patterns text

/-- Patterns that read alike give the same pieces. -/
theorem readAll_of_runsLike
    {patterns others : List Pattern}
    (alike : List.Forall₂ Pattern.RunsLike patterns others)
    (text : Text) :
    readAll stop patterns text = readAll stop others text := by
  induction alike generalizing text with
  | nil => rfl
  | cons first _ ih =>
    rw [readAll, readAll, first]
    simp only [ih]

end Piece

end Masthead
