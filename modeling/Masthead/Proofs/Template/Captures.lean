import Masthead.Proofs.Pattern.Numbered
import Masthead.Proofs.Template.Search

/-!
# The groups of a template

A template is one composite pattern, in which the pattern of every segment stands in a group of its
own.  What a segment reads is what its own group captures, and its captures are those of the groups
inside it.  The main theorems say that the search looks all of this up under the right numbers, and
that every number that is looked up for a year is the number of a group that captured one.
-/

namespace Masthead

namespace Captures

/-- The text that a group captured, if it took part. -/
def text? (captures : Captures) (number : Nat) : Option Text :=
  (captures.lookup number).map Stretch.text

/-- What a segment reads, by the number of its own group and the numbers of the groups inside it. -/
def piece (captures : Captures) (numbers : Nat × List Nat) : Piece where
  text := (captures.text? numbers.1).getD []
  captures := numbers.2.filterMap captures.text?

variable {captures front back : Captures} {number : Nat}

theorem exists_text?_of_mem (member : number ∈ captures.map (·.1)) :
    ∃ text, captures.text? number = some text := by
  cases found : captures.lookup number with
  | some stretch => exact ⟨stretch.text, by rw [text?, found, Option.map_some]⟩
  | none =>
    rcases List.mem_map.1 member with ⟨entry, listed, rfl⟩
    have other := List.lookup_eq_none_iff.1 found entry listed
    simp at other

theorem text?_append_of_notMem_left (absent : number ∉ front.map (·.1)) :
    text? (front ++ back) number = back.text? number := by
  rw [text?, List.lookup_append, lookup_eq_none_of_notMem absent, Option.none_or, text?]

theorem text?_append_of_notMem_right (absent : number ∉ back.map (·.1)) :
    text? (front ++ back) number = front.text? number := by
  rw [text?, List.lookup_append, lookup_eq_none_of_notMem absent, Option.or_none, text?]

theorem filterMap_text?
    {numbers : List Nat}
    (ordered : (captures.map (·.1)).Sublist numbers)
    (distinct : numbers.Nodup) :
    numbers.filterMap captures.text? = (captures.map (·.2)).map Stretch.text := by
  rw [← filterMap_lookup ordered distinct, List.map_filterMap]
  rfl

/-- The groups of a segment are found before those of the others. -/
theorem piece_append
    {stretch : Stretch} {count : Nat}
    (inside : (front.map (·.1)).Sublist (List.range' (number + 1) count))
    (beyond : ∀ other ∈ back.map (·.1), number + 1 + count ≤ other) :
    piece ((number, stretch) :: front ++ back) (number, List.range' (number + 1) count) =
      ⟨stretch.text, (front.map (·.2)).map Stretch.text⟩ := by
  have inner : (List.range' (number + 1) count).filterMap
      (text? ((number, stretch) :: front ++ back)) =
        (List.range' (number + 1) count).filterMap front.text? := by
    apply List.filterMap_congr
    intro other member
    rw [List.mem_range'_1] at member
    have notBeyond : other ∉ back.map (·.1) := fun later => by
      have far := beyond other later
      omega
    have notOwn : other ∉ [(number, stretch)].map (·.1) := by
      simp only [List.map_cons, List.map_nil, List.mem_singleton]
      omega
    rw [text?_append_of_notMem_right notBeyond, ← List.singleton_append,
      text?_append_of_notMem_left notOwn]
  rw [piece, inner, filterMap_text? inside List.nodup_range']
  simp [text?]

/-- The groups of a later segment are not found among those of an earlier one. -/
theorem piece_append_of_notMem
    {numbers : Nat × List Nat}
    (own : numbers.1 ∉ front.map (·.1))
    (inner : ∀ number ∈ numbers.2, number ∉ front.map (·.1)) :
    piece (front ++ back) numbers = back.piece numbers := by
  have same : numbers.2.filterMap (text? (front ++ back)) = numbers.2.filterMap back.text? :=
    List.filterMap_congr fun number member => text?_append_of_notMem_left (inner number member)
  rw [piece, piece, text?_append_of_notMem_left own, same]

end Captures

namespace Pattern

theorem le_of_mem_numberFrom
    {next : Nat} {patterns : List Pattern} {numbers : Nat × List Nat}
    (member : numbers ∈ numberFrom next patterns) :
    next ≤ numbers.1 ∧ ∀ number ∈ numbers.2, next ≤ number := by
  induction patterns generalizing next with
  | nil => cases member
  | cons pattern patterns ih =>
    rw [numberFrom, List.mem_cons] at member
    rcases member with rfl | later
    · refine ⟨Nat.le_refl next, fun number inside => ?_⟩
      rw [List.mem_range'_1] at inside
      omega
    · rcases ih later with ⟨own, inner⟩
      exact ⟨by omega, fun number inside => by have least := inner number inside; omega⟩

/-- Reading the composite pattern and looking up the groups of each segment gives what the patterns
read one after the other. -/
theorem runNumbered_concat_group
    {α β : Type} {stop : Text → Bool} {patterns : List Pattern} {number : Nat} {text : Text}
    {next : Captures → Text → Option α} {f : α → β} {g : List Piece → β}
    (continued : ∀ captures rest,
      (concat (patterns.map group)).MayTakePart number (captures.map (·.1)) →
        (next captures rest).map f =
          if stop rest then some (g ((numberFrom number patterns).map captures.piece)) else none) :
    ((concat (patterns.map group)).runNumbered number text next).map f =
      (Piece.readAll stop patterns text).map g := by
  induction patterns generalizing number text next g with
  | nil =>
    have atEnd := continued [] text rfl
    rw [Piece.readAll]
    simp only [List.map_nil, concat, List.foldr_nil, runNumbered, run, atEnd]
    split
    · rfl
    · rfl
  | cons pattern patterns ih =>
    rw [Piece.readAll, List.map_cons, concat_cons, runNumbered, runNumbered]
    apply map_runNumbered_eq_map_run
    intro captures rest inBody
    rw [Option.map_map]
    apply ih
    intro more left inRest
    have taking : (concat ((pattern :: patterns).map group)).MayTakePart number
        (((number, ⟨text, rest⟩) :: captures ++ more).map (·.1)) := by
      rw [List.map_append]
      exact ⟨_, _, rfl, ⟨_, rfl, inBody⟩, inRest⟩
    have inside := inBody.sublist_range'
    have beyond : ∀ other ∈ more.map (·.1), number + 1 + pattern.groups ≤ other := by
      intro other member
      have bounds := List.mem_range'_1.1 (inRest.sublist_range'.subset member)
      rw [groups] at bounds
      omega
    have others : ∀ numbers ∈ numberFrom (number + pattern.groups + 1) patterns,
        Captures.piece ((number, ⟨text, rest⟩) :: captures ++ more) numbers =
          Captures.piece more numbers := by
      intro numbers member
      rcases le_of_mem_numberFrom member with ⟨own, inner⟩
      have notEarlier : ∀ other, number + pattern.groups + 1 ≤ other →
          other ∉ ((number, (⟨text, rest⟩ : Stretch)) :: captures).map (·.1) := by
        intro other least earlier
        rcases List.mem_cons.1 earlier with rfl | inBodyToo
        · omega
        · have bounds := List.mem_range'_1.1 (inside.subset inBodyToo)
          omega
      exact Captures.piece_append_of_notMem (notEarlier _ own)
        fun other listed => notEarlier other (inner other listed)
    rw [continued _ left taking, numberFrom, List.map_cons, List.map_congr_left others,
      Captures.piece_append inside beyond]
    rfl

end Pattern

/-! ## The search -/

/-- A reading of a composite pattern: how many characters precede it, and what its groups
captured. -/
structure Captured where
  start : Nat
  groups : Captures

namespace Captured

/-- The first place where a pattern reads the front of a text, after some characters, with what its
groups capture there; they are numbered from one. -/
def searchFrom (pattern : Pattern) (skipped : Nat) : Text → Option Captured
  | [] => (pattern.runNumbered 1 [] fun captures _ => some captures).map (⟨skipped, ·⟩)
  | c :: rest =>
      match pattern.runNumbered 1 (c :: rest) fun captures _ => some captures with
      | some captures => some ⟨skipped, captures⟩
      | none => searchFrom pattern (skipped + 1) rest

/-- What the segments read, looked up under the numbers of their groups. -/
def found (captured : Captured) (numbers : List (Nat × List Nat)) : Found :=
  ⟨captured.start, numbers.map captured.groups.piece⟩

end Captured

namespace Template

/-- The composite pattern of a template, with the pattern of every segment in a group of its own. -/
def composite (template : Template) : Pattern := .concat (template.patterns.map .group)

/-- What the groups of a template capture at the first place where it reads something. -/
def capture? (template : Template) (text : Text) : Option Captured :=
  Captured.searchFrom template.composite 0 text

variable {template : Template} {captures : Captures} {captured : Captured} {text : Text}

theorem readFront_eq_runNumbered (template : Template) (text : Text) :
    Piece.readFront template.patterns text =
      (template.composite.runNumbered 1 text fun captures _ => some captures).map fun captures =>
        template.groupNumbers.map captures.piece := by
  have looked : (template.composite.runNumbered 1 text fun captures _ => some captures).map
      (fun captures => template.groupNumbers.map captures.piece) =
        (Piece.readFront template.patterns text).map id :=
    Pattern.runNumbered_concat_group fun captures rest _ => rfl
  rw [looked, Option.map_id_fun, id]

/-- The search over the patterns of the segments is the search over the composite pattern, with the
groups looked up by their numbers. -/
theorem searchFrom_eq_captured (template : Template) (skipped : Nat) (text : Text) :
    Found.searchFrom template.patterns skipped text =
      (Captured.searchFrom template.composite skipped text).map
        (·.found template.groupNumbers) := by
  induction text generalizing skipped with
  | nil =>
    rw [Found.searchFrom, Captured.searchFrom, readFront_eq_runNumbered, Option.map_map,
      Option.map_map]
    rfl
  | cons c rest ih =>
    rw [Found.searchFrom, Captured.searchFrom, readFront_eq_runNumbered]
    cases template.composite.runNumbered 1 (c :: rest) fun captures _ => some captures with
    | none => exact ih (skipped + 1)
    | some captures => rfl

theorem find?_eq_captured (template : Template) (text : Text) :
    template.find? text = (template.capture? text).map fun captured =>
      (captured.found template.groupNumbers).correct template.segments template.patterns := by
  rw [find?, searchFrom_eq_captured, Option.map_map, capture?]
  rfl

end Template

/-! ## What the groups of a segment capture -/

/-- A text of four digits that is read as a number. -/
def Text.MeansYear (text : Text) : Prop :=
  text.IsYear ∧ ∃ value, Segment.readYear text = .ok value

theorem Text.IsYear.meansYear {text : Text} (year : text.IsYear) : text.MeansYear :=
  ⟨year, _, (Segment.readYear_of_isYear year).1⟩

namespace Segment

/-- The groups of a segment capture what it takes its meaning from.  Its own group takes part.  It
is a year for a year; a range has two groups inside it, of which the first captures a year, and the
second one captures a year if it takes part; the other segments have no groups inside them. -/
def IsSupplied (captures : Captures) (segment : Segment) (numbers : Nat × List Nat) : Prop :=
  ∃ text, captures.text? numbers.1 = some text ∧
    match segment with
    | .year => text.MeansYear ∧ numbers.2 = []
    | .yearRange =>
        ∃ first second start, numbers.2 = [first, second] ∧
          captures.text? first = some start ∧ start.MeansYear ∧
            ∀ stop ∈ captures.text? second, stop.MeansYear
    | .text _ | .name _ => numbers.2 = []

theorem groups_concat_map_token (tokens : List Token) :
    (Pattern.concat (tokens.map Token.pattern)).groups = 0 := by
  induction tokens with
  | nil => rfl
  | cons token tokens ih =>
    rw [List.map_cons, Pattern.concat_cons, Pattern.groups, ih]
    cases token with
    | _ => rfl

/-- The first group inside a range always takes part. -/
theorem mem_of_mayTakePart_yearRange
    {number : Nat} {taken : List Nat}
    (taking : yearRangePattern.MayTakePart number taken) :
    number ∈ taken := by
  rcases taking with ⟨_, back, rfl, ⟨inner, rfl, -⟩, -⟩
  exact List.mem_cons_self

/-- What a segment reads is looked up under the numbers of groups that captured it. -/
theorem isSupplied_of_readBy
    {captures : Captures} {segment : Segment} {number : Nat} {taken : List Nat}
    (taking : (Pattern.group segment.pattern).MayTakePart number taken)
    (present : ∀ other ∈ taken, ∃ text, captures.text? other = some text)
    (read : Piece.ReadBy segment.pattern
      (captures.piece (number, List.range' (number + 1) segment.pattern.groups))) :
    segment.IsSupplied captures (number, List.range' (number + 1) segment.pattern.groups) := by
  rcases taking with ⟨inner, rfl, inBody⟩
  rcases present number List.mem_cons_self with ⟨text, own⟩
  refine ⟨text, own, ?_⟩
  cases segment with
  | text literal =>
    rw [pattern, groups_concat_map_token]
    rfl
  | year =>
    have year : ((captures.text? number).getD []).IsYear := read.accepts
    rw [own] at year
    exact ⟨Text.IsYear.meansYear year, rfl⟩
  | yearRange =>
    have first := List.mem_cons_of_mem number (mem_of_mayTakePart_yearRange inBody)
    rcases present (number + 1) first with ⟨start, started⟩
    have years : ∀ other ∈ [number + 1, number + 2], ∀ year ∈ captures.text? other,
        year.MeansYear := by
      intro other listed year captured
      have inside := List.mem_filterMap.2 ⟨other, listed, captured⟩
      exact (isYear_of_mem_captures read year inside).meansYear
    exact ⟨number + 1, number + 2, start, rfl, started, years _ (by simp) start started,
      years _ (by simp)⟩
  | name placeholder => rfl

/-- All segments of a composite pattern take their meaning from groups that captured it. -/
theorem forall₂_isSupplied
    {captures : Captures} {segments : List Segment} {number : Nat} {taken : List Nat}
    (taking : (Pattern.concat ((segments.map pattern).map .group)).MayTakePart number taken)
    (present : ∀ other ∈ taken, ∃ text, captures.text? other = some text)
    (read : List.Forall₂ Piece.ReadBy (segments.map pattern)
      ((Pattern.numberFrom number (segments.map pattern)).map captures.piece)) :
    List.Forall₂ (IsSupplied captures) segments
      (Pattern.numberFrom number (segments.map pattern)) := by
  induction segments generalizing number taken with
  | nil => exact .nil
  | cons segment segments ih =>
    rcases taking with ⟨front, back, rfl, inFirst, inOthers⟩
    cases read with
    | cons first others =>
      refine .cons (isSupplied_of_readBy inFirst ?_ first) (ih inOthers ?_ others)
      · exact fun other member => present other (List.mem_append_left back member)
      · exact fun other member => present other (List.mem_append_right front member)

end Segment

namespace Captured

/-- What is captured has been read at the front of some part of the text. -/
theorem exists_of_searchFrom
    {pattern : Pattern} {skipped : Nat} {text : Text} {captured : Captured}
    (present : searchFrom pattern skipped text = some captured) :
    ∃ below, pattern.runNumbered 1 below (fun captures _ => some captures) =
      some captured.groups := by
  induction text generalizing skipped with
  | nil =>
    rcases Option.map_eq_some_iff.1 present with ⟨captures, read, rfl⟩
    exact ⟨[], read⟩
  | cons c rest ih =>
    rw [searchFrom] at present
    split at present
    · rename_i captures read
      cases present
      exact ⟨c :: rest, read⟩
    · exact ih present

end Captured

namespace Template

/-- Wherever a template reads something, every segment takes its meaning from groups of its own that
captured it. -/
theorem forall₂_isSupplied_of_capture?
    {template : Template} {text : Text} {captured : Captured}
    (present : template.capture? text = some captured) :
    List.Forall₂ (Segment.IsSupplied captured.groups) template.segments template.groupNumbers := by
  rcases Captured.exists_of_searchFrom present with ⟨below, read⟩
  have pieces : Piece.readFront template.patterns below =
      some (template.groupNumbers.map captured.groups.piece) := by
    rw [readFront_eq_runNumbered, read]
    rfl
  rcases Piece.readAll_eq_some pieces with ⟨_, -, -, pairs⟩
  have taking : ∀ captures ∈ template.composite.runNumbered 1 below fun captures _ => some captures,
      template.composite.MayTakePart 1 (captures.map (·.1)) := by
    apply Pattern.forall_of_runNumbered
    rintro captures _ together _ ⟨⟩
    exact together
  exact Segment.forall₂_isSupplied (taking captured.groups read)
    (fun _ => Captures.exists_text?_of_mem) pairs

end Template

end Masthead
