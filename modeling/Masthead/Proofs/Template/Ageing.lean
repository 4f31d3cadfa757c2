import Masthead.Proofs.Template.Search

/-!
# A header as the years pass

The current year does not matter to where a header is found, nor to what its segments keep.  It only
sorts their years: one after the current year is a fault, one before it is out of date.  So from an
earlier to a later year a segment may lose the fault and may get out of date, and never the other
way round.  This is carried from one segment to all segments, and from there to the header.
-/

namespace Masthead

/-- Whether a fault is that of a year after the current one. -/
def Fault.isFuture : Fault → Bool
  | futureYear _ _ => true
  | _ => false

namespace SegmentResult

/-- Whether a segment shows a year after the current one. -/
def isFuture (result : SegmentResult) : Bool := result.faults.any (·.isFuture)

/-- Whether a segment is out of date. -/
def isStale (result : SegmentResult) : Bool := !result.notices.isEmpty

/-- The faults of a segment in which the current year plays no part. -/
def lastingFaults (result : SegmentResult) : List Fault := result.faults.filter (!·.isFuture)

/-- What becomes of the outcome for a segment as the years pass: it stays as exact as it was and
keeps the same, and the other faults remain; a year after the current one may cease to be one, but
none becomes one, and what is out of date stays so. -/
structure AgesTo (earlier later : SegmentResult) : Prop where
  isInexact : later.isInexact = earlier.isInexact
  kept : later.kept = earlier.kept
  lastingFaults : later.lastingFaults = earlier.lastingFaults
  isFuture : later.isFuture = true → earlier.isFuture = true
  isStale : earlier.isStale = true → later.isStale = true

end SegmentResult

namespace Match

/-- What becomes of a header as the years pass: it stays where it is, and its segments age. -/
structure AgesTo (earlier later : Match) : Prop where
  start : later.start = earlier.start
  length : later.length = earlier.length
  isInexact : later.isInexact = earlier.isInexact
  results : List.Forall₂ SegmentResult.AgesTo earlier.results later.results

end Match

namespace SegmentResult

variable {earlier later : List SegmentResult}

theorem any_isInexact_of_forall₂
    (age : List.Forall₂ AgesTo earlier later) :
    later.any (·.isInexact) = earlier.any (·.isInexact) := by
  induction age with
  | nil => rfl
  | cons first _ ih => rw [List.any_cons, List.any_cons, first.isInexact, ih]

/-- Where some segment is out of date, some segment stays so. -/
theorem any_isStale_of_forall₂
    (age : List.Forall₂ AgesTo earlier later)
    (outdated : earlier.any (·.isStale) = true) :
    later.any (·.isStale) = true := by
  induction age with
  | nil => cases outdated
  | cons first _ ih =>
    rw [List.any_cons, Bool.or_eq_true] at outdated ⊢
    exact outdated.imp first.isStale ih

end SegmentResult

theorem Match.notices_eq_nil_iff {found : Match} :
    found.notices = [] ↔ found.results.any (·.isStale) = false := by
  simp [notices, List.flatMap_eq_nil_iff, SegmentResult.isStale]

namespace Segment

/-! ## One year -/

theorem isFuture_of_mem_futurity
    {year : Int} {current : CurrentYear} {fault : Fault}
    (member : fault ∈ futurity year current) :
    fault.isFuture = true := by
  rw [futurity] at member
  split at member
  · rw [List.mem_singleton.1 member]
    rfl
  · cases member

theorem any_isFuture_futurity (year : Int) (current : CurrentYear) :
    (futurity year current).any (·.isFuture) = decide ((current.value : Int) < year) := by
  by_cases future : (current.value : Int) < year
  · simp [futurity, future, Fault.isFuture]
  · simp [futurity, future]

theorem filter_isFuture_futurity (year : Int) (current : CurrentYear) :
    (futurity year current).filter (!·.isFuture) = [] := by
  rw [List.filter_eq_nil_iff]
  intro fault member
  simp [isFuture_of_mem_futurity member]

theorem isEmpty_staleness (year : Int) (current : CurrentYear) :
    (staleness year current).isEmpty = !decide (year < current.value) := by
  by_cases stale : year < current.value
  · simp [staleness, stale]
  · simp [staleness, stale]

end Segment

/-- The outcome for a segment, year by year: either the current year plays no part in it, or one
year in the segment's text is compared with the current one. -/
inductive SegmentResult.Yearly : (CurrentYear → SegmentResult) → Prop
  | undated
      {result : SegmentResult}
      (lasting : ∀ fault ∈ result.faults, fault.isFuture = false)
      (current : result.notices = []) :
      Yearly fun _ => result
  | dated
      {faults : List Fault}
      (lasting : ∀ fault ∈ faults, fault.isFuture = false)
      (isInexact : Bool) (kept : Kept) (year : Int) :
      Yearly fun current =>
        ⟨isInexact, faults ++ Segment.futurity year current, Segment.staleness year current, kept⟩

namespace SegmentResult

variable {outcome : CurrentYear → SegmentResult} {earlier later : CurrentYear}

theorem isFuture_append_futurity
    {faults : List Fault}
    (lasting : ∀ fault ∈ faults, fault.isFuture = false)
    (isInexact : Bool) (kept : Kept) (notices : List Notice) (year : Int)
    (current : CurrentYear) :
    isFuture ⟨isInexact, faults ++ Segment.futurity year current, notices, kept⟩ =
      decide ((current.value : Int) < year) := by
  have none : faults.any (·.isFuture) = false := by
    rw [List.any_eq_false]
    intro fault member
    simp [lasting fault member]
  rw [isFuture, List.any_append, none, Bool.false_or, Segment.any_isFuture_futurity]

theorem isStale_staleness
    (isInexact : Bool) (faults : List Fault) (kept : Kept) (year : Int) (current : CurrentYear) :
    isStale ⟨isInexact, faults, Segment.staleness year current, kept⟩ =
      decide (year < current.value) := by
  rw [isStale, Segment.isEmpty_staleness, Bool.not_not]

theorem Yearly.agesTo
    (yearly : Yearly outcome)
    (passes : earlier.value ≤ later.value) :
    (outcome earlier).AgesTo (outcome later) := by
  cases yearly with
  | undated _ _ => exact ⟨rfl, rfl, rfl, id, id⟩
  | dated lasting isInexact kept year =>
    refine ⟨rfl, rfl, ?_, ?_, ?_⟩
    · simp only [lastingFaults, List.filter_append, Segment.filter_isFuture_futurity]
    · rw [isFuture_append_futurity lasting, isFuture_append_futurity lasting, decide_eq_true_eq,
        decide_eq_true_eq]
      omega
    · rw [isStale_staleness, isStale_staleness, decide_eq_true_eq, decide_eq_true_eq]
      omega

/-- No segment shows a year after the current one and is out of date as well. -/
theorem Yearly.not_isFuture_and_isStale
    (yearly : Yearly outcome)
    (current : CurrentYear) :
    ¬ ((outcome current).isFuture = true ∧ (outcome current).isStale = true) := by
  cases yearly with
  | undated _ upToDate => simp [isStale, upToDate]
  | dated lasting isInexact kept year =>
    rw [isFuture_append_futurity lasting, isStale_staleness, decide_eq_true_eq, decide_eq_true_eq]
    omega

end SegmentResult

/-! ## All segments -/

/-- A segment's text has no meaning in any year, or it has one in every year. -/
theorem Segment.interpret_yearly
    (segment : Segment) (text : Text) (length : Int) (captures : List Text) :
    (∃ error, ∀ current, segment.interpret current text length captures = .error error) ∨
      ∃ outcome, SegmentResult.Yearly outcome ∧
        ∀ current, segment.interpret current text length captures = .ok (outcome current) := by
  have range : ∀ start stop, SegmentResult.Yearly fun current =>
      interpretRange current text start stop := by
    intro start stop
    apply SegmentResult.Yearly.dated
    intro fault member
    split at member
    · rw [List.mem_singleton.1 member]
      rfl
    · cases member
  cases segment with
  | text literal => exact Or.inr ⟨_, .undated (by simp) rfl, fun _ => rfl⟩
  | year =>
    cases read : readYear text with
    | error error => exact Or.inl ⟨error, fun _ => by rw [interpret, read]; rfl⟩
    | ok year =>
      have dated := @SegmentResult.Yearly.dated [] (by simp) false .nothing year
      exact Or.inr ⟨_, dated, fun _ => by rw [interpret, read]; rfl⟩
  | yearRange =>
    rcases captures with _ | ⟨first, _ | ⟨second, others⟩⟩
    · exact Or.inl ⟨_, fun _ => rfl⟩
    · cases read : readYear first with
      | error error => exact Or.inl ⟨error, fun _ => by rw [interpret, read]; rfl⟩
      | ok start => exact Or.inr ⟨_, range start start, fun _ => by rw [interpret, read]; rfl⟩
    · cases read : readYear first with
      | error error => exact Or.inl ⟨error, fun _ => by rw [interpret, read]; rfl⟩
      | ok start =>
        cases readToo : readYear second with
        | error error => exact Or.inl ⟨error, fun _ => by rw [interpret, read, readToo]; rfl⟩
        | ok stop =>
          exact Or.inr ⟨_, range start stop, fun _ => by rw [interpret, read, readToo]; rfl⟩
  | name placeholder =>
    refine Or.inr ⟨fun _ => interpretName text length, .undated ?_ rfl, fun _ => rfl⟩
    intro fault member
    rw [interpretName] at member
    dsimp only at member
    split at member
    · rw [List.mem_singleton.1 member]
      rfl
    · cases member

/-- The texts of some segments have no meaning in any year, or they have one in every year. -/
theorem Found.interpretAll_yearly (segments : List Segment) (pieces : List Piece) :
    (∃ error, ∀ current, interpretAll current segments pieces = .error error) ∨
      ∃ outcomes : List (CurrentYear → SegmentResult),
        (∀ outcome ∈ outcomes, SegmentResult.Yearly outcome) ∧
          ∀ current, interpretAll current segments pieces = .ok (outcomes.map (· current)) := by
  induction segments generalizing pieces with
  | nil => exact Or.inr ⟨[], by simp, fun _ => rfl⟩
  | cons segment segments ih =>
    cases pieces with
    | nil => exact Or.inr ⟨[], by simp, fun _ => rfl⟩
    | cons piece pieces =>
      rcases segment.interpret_yearly piece.text piece.text.length piece.captures with
        ⟨error, failed⟩ | ⟨outcome, yearly, first⟩
      · exact Or.inl ⟨error, fun current => by rw [interpretAll, failed]; rfl⟩
      · rcases ih pieces with ⟨error, failed⟩ | ⟨outcomes, yearlyToo, others⟩
        · exact Or.inl ⟨error, fun current => by rw [interpretAll, first, failed]; rfl⟩
        · refine Or.inr ⟨outcome :: outcomes, ?_, fun current => ?_⟩
          · rintro _ (_ | ⟨_, member⟩)
            · exact yearly
            · exact yearlyToo _ member
          · rw [interpretAll, first, others]
            rfl

namespace Template

/-- The current year decides neither whether nor where a header is found, and each segment's outcome
depends on it by the comparison with one year at most. -/
theorem match?_yearly (template : Template) (text : Text) :
    (∀ current, template.match? current text = .ok none) ∨
      ∃ start length, ∃ outcomes : List (CurrentYear → SegmentResult),
        (∀ outcome ∈ outcomes, SegmentResult.Yearly outcome) ∧
          ∀ current, template.match? current text =
            .ok (some ⟨start, length, outcomes.map (· current)⟩) := by
  cases present : template.find? text with
  | none => exact Or.inl fun current => by rw [match?, present]
  | some found =>
    rcases find?_eq_some present with ⟨-, -, meant⟩
    rcases Found.interpretAll_yearly template.segments found.pieces with
      ⟨error, failed⟩ | ⟨outcomes, yearly, interpreted⟩
    · rcases meant ⟨1000, by decide, by decide⟩ with ⟨results, computed, -⟩
      rw [failed] at computed
      cases computed
    · exact Or.inr ⟨found.start, _, outcomes, yearly,
        fun current => match?_of_find? present (interpreted current)⟩

/-- From an earlier to a later year a header stays where it is, or absent; each segment stays as
exact as it was, keeps the same and has the same lasting faults; what is out of date stays so, no
year gets to lie after the current one, and in no year does a segment show both.  So a header that
is out of date stays so until the text is changed. -/
theorem match?_agesTo
    {earlier later : CurrentYear}
    (template : Template) (text : Text)
    (passes : earlier.value ≤ later.value) :
    ∃ first second,
      template.match? earlier text = .ok first ∧
      template.match? later text = .ok second ∧
      Option.Rel Match.AgesTo first second ∧
      (∀ found ∈ first, found.notices ≠ [] → ∀ foundLater ∈ second, foundLater.notices ≠ []) ∧
      ∀ current found, template.match? current text = .ok (some found) →
        ∀ result ∈ found.results, ¬ (result.isFuture = true ∧ result.isStale = true) := by
  rcases template.match?_yearly text with absent | ⟨start, length, outcomes, yearly, searched⟩
  · refine ⟨none, none, absent earlier, absent later, .none, by simp, ?_⟩
    intro current found present
    rw [absent current] at present
    cases present
  · have age : List.Forall₂ SegmentResult.AgesTo (outcomes.map (· earlier))
        (outcomes.map (· later)) := by
      rw [List.forall₂_map_left_iff, List.forall₂_map_right_iff, List.forall₂_same]
      exact fun outcome member => (yearly outcome member).agesTo passes
    refine ⟨_, _, searched earlier, searched later, .some ⟨rfl, rfl, ?_, age⟩, ?_, ?_⟩
    · exact SegmentResult.any_isInexact_of_forall₂ age
    · rintro _ ⟨⟩ outdated _ ⟨⟩
      rw [ne_eq, Match.notices_eq_nil_iff, Bool.not_eq_false] at outdated ⊢
      exact SegmentResult.any_isStale_of_forall₂ age outdated
    · intro current found present result member
      rw [searched current] at present
      cases present
      rcases List.mem_map.1 member with ⟨outcome, memberToo, rfl⟩
      exact (yearly outcome memberToo).not_isFuture_and_isStale current

/-- A template of a year and a range. -/
def datedSample : Template where
  segments := [.year, .text [' '], .yearRange]
  occupied := by simp

/-- A year that lies ahead in 2024 and behind in 2031, before a range that ends too soon. -/
theorem match?_agesTo_sample :
    ∃ first second,
      datedSample.match? ⟨2024, by decide, by decide⟩ "2030 2021-2020".toList = .ok (some first) ∧
      datedSample.match? ⟨2031, by decide, by decide⟩ "2030 2021-2020".toList = .ok (some second) ∧
      first.AgesTo second ∧
      first.results.map (·.isFuture) = [true, false, false] ∧
      second.results.map (·.isFuture) = [false, false, false] ∧
      second.notices ≠ [] := by
  have passes : CurrentYear.value ⟨2024, by decide, by decide⟩ ≤
      CurrentYear.value ⟨2031, by decide, by decide⟩ := by
    decide
  have outcome : (datedSample.match? ⟨2024, by decide, by decide⟩ "2030 2021-2020".toList).map
      (·.map fun found => (found.results.map (·.isFuture), found.notices.length)) =
        .ok (some ([true, false, false], 1)) := by
    decide +kernel
  have outcomeLater : (datedSample.match? ⟨2031, by decide, by decide⟩ "2030 2021-2020".toList).map
      (·.map fun found => found.results.map (·.isFuture)) =
        .ok (some [false, false, false]) := by
    decide +kernel
  rcases match?_agesTo datedSample "2030 2021-2020".toList passes with
    ⟨first, second, searched, searchedLater, ages, stale, -⟩
  rw [searched] at outcome
  rw [searchedLater] at outcomeLater
  cases ages with
  | none => cases outcome
  | @some found foundLater agesOne =>
    rcases Prod.mk.inj (Option.some.inj (Except.ok.inj outcome)) with ⟨future, outdated⟩
    refine ⟨found, foundLater, searched, searchedLater, agesOne, future,
      Option.some.inj (Except.ok.inj outcomeLater), ?_⟩
    apply stale found rfl _ foundLater rfl
    rintro nothing
    rw [nothing] at outdated
    cases outdated

end Template

end Masthead
