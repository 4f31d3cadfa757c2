import Masthead.Proofs.Table
import Masthead.Template.Pattern
import Masthead.Pattern.Search

/-!
# Reading with numbered groups

The groups of a pattern are numbered by their opening parentheses, whether they take part in a
reading or not.  Reading with numbers lists the groups that took part, each with its number and the
stretch it captured.  It tries the same readings in the same order as reading without numbers, so
the two give related results whatever is made of the captures.

The main theorem puts the pattern of every segment into a group of its own.  Looking up the groups
by their numbers then gives the pieces that the patterns read one after the other.
-/

namespace Masthead

/-- The groups that took part in a reading, each with its number and the stretch it captured. -/
abbrev Captures := List (Nat × Stretch)

namespace Pattern

variable {α β : Type}

/-- The numbers of groups that may take part in one reading together, in order; the groups of the
pattern are numbered from a next number on. -/
def MayTakePart : Pattern → (next : Nat) → List Nat → Prop
  | sequence first second, next, numbers =>
      ∃ front back, numbers = front ++ back ∧ first.MayTakePart next front ∧
        second.MayTakePart (next + first.groups) back
  | either first second, next, numbers =>
      first.MayTakePart next numbers ∨ second.MayTakePart (next + first.groups) numbers
  | optional body, next, numbers => body.MayTakePart next numbers ∨ numbers = []
  | group body, next, numbers =>
      ∃ inner, numbers = next :: inner ∧ body.MayTakePart (next + 1) inner
  | _, _, numbers => numbers = []

/-- Groups take part in the order of their numbers, and only those that the pattern has. -/
theorem MayTakePart.sublist_range'
    {pattern : Pattern} {next : Nat} {numbers : List Nat}
    (taking : pattern.MayTakePart next numbers) :
    numbers.Sublist (List.range' next pattern.groups) := by
  induction pattern generalizing next numbers with
  | sequence first second ihFirst ihSecond =>
    rcases taking with ⟨front, back, rfl, inFirst, inSecond⟩
    rw [groups, ← List.range'_append_1]
    exact (ihFirst inFirst).append (ihSecond inSecond)
  | either first second ihFirst ihSecond =>
    rw [groups, ← List.range'_append_1]
    rcases taking with inFirst | inSecond
    · exact (ihFirst inFirst).trans (List.sublist_append_left _ _)
    · exact (ihSecond inSecond).trans (List.sublist_append_right _ _)
  | optional body ih =>
    rcases taking with present | rfl
    · exact ih present
    · exact List.nil_sublist _
  | group body ih =>
    rcases taking with ⟨inner, rfl, inBody⟩
    rw [groups, List.range'_succ]
    exact (ih inBody).cons_cons next
  | empty | one | times | star | plus | lazyStar | lineBreak =>
    rw [show numbers = [] from taking]
    exact List.nil_sublist _

/-- The first reading of the front of a text that the continuation takes, where the groups are
numbered from a number on.  The continuation gets the groups that took part. -/
def runNumbered : Pattern → (number : Nat) → Text → (Captures → Text → Option α) → Option α
  | sequence first second, number, text, next =>
      first.runNumbered number text fun captures rest =>
        second.runNumbered (number + first.groups) rest fun more left =>
          next (captures ++ more) left
  | either first second, number, text, next =>
      first.runNumbered number text next <|>
        second.runNumbered (number + first.groups) text next
  | optional body, number, text, next => body.runNumbered number text next <|> next [] text
  | group body, number, text, next =>
      body.runNumbered (number + 1) text fun captures rest =>
        next ((number, ⟨text, rest⟩) :: captures) rest
  | pattern, _, text, next => pattern.run text fun _ => next []

section Related

/-! ## The same readings in the same order -/

variable (related : Option α → Option β → Prop)
  (nothing : related none none)
  (orElse : ∀ first second firstToo secondToo,
    related first firstToo → related second secondToo →
      related (first <|> second) (firstToo <|> secondToo))

include nothing in
theorem related_runTimes
    {set : CharSet} {count : Nat} {text : Text}
    {next : Text → Option α} {nextToo : Text → Option β}
    (continued : ∀ rest, related (next rest) (nextToo rest)) :
    related (runTimes set count text next) (runTimes set count text nextToo) := by
  induction count generalizing text with
  | zero => exact continued text
  | succ count ih =>
    cases text with
    | nil => exact nothing
    | cons c rest =>
      rw [runTimes, runTimes]
      split
      · exact ih
      · exact nothing

include orElse

theorem related_runStar
    {set : CharSet} {text : Text}
    {next : Text → Option α} {nextToo : Text → Option β}
    (continued : ∀ rest, related (next rest) (nextToo rest)) :
    related (runStar set text next) (runStar set text nextToo) := by
  induction text with
  | nil => exact continued []
  | cons c rest ih =>
    rw [runStar, runStar]
    split
    · exact orElse _ _ _ _ ih (continued (c :: rest))
    · exact continued (c :: rest)

include nothing

theorem related_runLazy
    {set : CharSet} {text : Text}
    {next : Text → Option α} {nextToo : Text → Option β}
    (continued : ∀ rest, related (next rest) (nextToo rest)) :
    related (runLazy set text next) (runLazy set text nextToo) := by
  induction text with
  | nil => exact continued []
  | cons c rest ih =>
    rw [runLazy, runLazy]
    apply orElse _ _ _ _ (continued (c :: rest))
    split
    · exact ih
    · exact nothing

theorem related_runBreak
    {text : Text} {next : Text → Option α} {nextToo : Text → Option β}
    (continued : ∀ rest, related (next rest) (nextToo rest)) :
    related (runBreak text next) (runBreak text nextToo) := by
  unfold runBreak
  split
  · exact orElse _ _ _ _ (continued _) (continued _)
  · exact continued _
  · exact continued _
  · exact nothing

/-- Reading with and without numbers goes through the same readings in the same order.  So the
results are related as soon as the continuations are, on groups that may take part together. -/
theorem related_runNumbered
    {pattern : Pattern} {number : Nat} {text : Text}
    {next : Captures → Text → Option α} {nextToo : List Stretch → Text → Option β}
    (continued : ∀ captures rest, pattern.MayTakePart number (captures.map (·.1)) →
      related (next captures rest) (nextToo (captures.map (·.2)) rest)) :
    related (pattern.runNumbered number text next) (pattern.run text nextToo) := by
  induction pattern generalizing number text next nextToo with
  | empty => exact continued [] text rfl
  | one set =>
    simp only [runNumbered, run]
    split
    · exact nothing
    · split
      · exact continued [] _ rfl
      · exact nothing
  | times count set => exact related_runTimes related nothing fun rest => continued [] rest rfl
  | star set => exact related_runStar related orElse fun rest => continued [] rest rfl
  | plus set =>
    simp only [runNumbered, run]
    split
    · exact nothing
    · split
      · exact related_runStar related orElse fun rest => continued [] rest rfl
      · exact nothing
  | lazyStar set => exact related_runLazy related nothing orElse fun rest => continued [] rest rfl
  | lineBreak => exact related_runBreak related nothing orElse fun rest => continued [] rest rfl
  | sequence first second ihFirst ihSecond =>
    apply ihFirst
    intro captures rest inFirst
    apply ihSecond
    intro more left inSecond
    rw [← List.map_append]
    apply continued
    rw [List.map_append]
    exact ⟨_, _, rfl, inFirst, inSecond⟩
  | either first second ihFirst ihSecond =>
    apply orElse
    · exact ihFirst fun captures rest inFirst => continued captures rest (Or.inl inFirst)
    · exact ihSecond fun captures rest inSecond => continued captures rest (Or.inr inSecond)
  | optional body ih =>
    apply orElse
    · exact ih fun captures rest inBody => continued captures rest (Or.inl inBody)
    · exact continued [] text (Or.inr rfl)
  | group body ih =>
    apply ih
    intro captures rest inBody
    exact continued ((number, ⟨text, rest⟩) :: captures) rest ⟨_, rfl, inBody⟩

end Related

/-- If what is made of the continuations is the same, so is what is made of the results. -/
theorem map_runNumbered_eq_map_run
    {γ : Type} {f : α → γ} {g : β → γ} {pattern : Pattern} {number : Nat} {text : Text}
    {next : Captures → Text → Option α} {nextToo : List Stretch → Text → Option β}
    (continued : ∀ captures rest, pattern.MayTakePart number (captures.map (·.1)) →
      (next captures rest).map f = (nextToo (captures.map (·.2)) rest).map g) :
    (pattern.runNumbered number text next).map f = (pattern.run text nextToo).map g := by
  refine related_runNumbered (fun first second => first.map f = second.map g) rfl ?_ continued
  intro first second firstToo secondToo same sameToo
  cases first with
  | none =>
    have absent : firstToo = none := Option.map_eq_none_iff.1 same.symm
    rw [absent]
    exact sameToo
  | some result =>
    rcases Option.map_eq_some_iff.1 same.symm with ⟨resultToo, rfl, _⟩
    exact same

/-- What is made of the result may as well be made of what the continuation gives. -/
theorem map_run
    {f : α → β} (pattern : Pattern) (text : Text) (next : List Stretch → Text → Option α) :
    (pattern.run text next).map f =
      pattern.run text fun captures rest => (next captures rest).map f := by
  have before := @map_runNumbered_eq_map_run α α β f f pattern 0 text
    (fun captures rest => next (captures.map (·.2)) rest) next fun _ _ _ => rfl
  have after := @map_runNumbered_eq_map_run α β β f id pattern 0 text
    (fun captures rest => next (captures.map (·.2)) rest)
    (fun captures rest => (next captures rest).map f) fun _ _ _ => by rw [Option.map_id]; rfl
  rw [← before, after, Option.map_id]
  rfl

/-- Whatever holds of all groups that may take part together holds of those of a reading. -/
theorem forall_of_runNumbered
    {pattern : Pattern} {number : Nat} {text : Text}
    {next : Captures → Text → Option α} {holds : α → Prop}
    (continued : ∀ captures rest, pattern.MayTakePart number (captures.map (·.1)) →
      ∀ result ∈ next captures rest, holds result) :
    ∀ result ∈ pattern.runNumbered number text next, holds result := by
  refine @related_runNumbered α Unit (fun outcome _ => ∀ result ∈ outcome, holds result)
    (by simp) ?_ pattern number text next (fun _ _ => none) continued
  intro first second _ _ inFirst inSecond
  cases first with
  | none => exact inSecond
  | some _ => exact inFirst

end Pattern

end Masthead
