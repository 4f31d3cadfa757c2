import Masthead.Pattern.Search

/-!
# The language of a pattern

The texts that a pattern reads, said without any order of trying, and what it captures from them.
Reading a text with a pattern is sound and complete for this language: what is read belongs to it,
and if some text of the language stands at the front and the continuation takes what is left, then
something is read.
-/

namespace Masthead

namespace Pattern

/-- The texts that a pattern reads. -/
def Accepts : Pattern → Text → Prop
  | empty, text => text = []
  | one set, text => ∃ c, text = [c] ∧ set.accepts c = true
  | times count set, text => text.length = count ∧ ∀ c ∈ text, set.accepts c = true
  | star set, text => ∀ c ∈ text, set.accepts c = true
  | plus set, text => text ≠ [] ∧ ∀ c ∈ text, set.accepts c = true
  | lazyStar set, text => ∀ c ∈ text, set.accepts c = true
  | lineBreak, text => text = ['\r', '\n'] ∨ text = ['\r'] ∨ text = ['\n']
  | sequence first second, text =>
      ∃ front back, text = front ++ back ∧ first.Accepts front ∧ second.Accepts back
  | either first second, text => first.Accepts text ∨ second.Accepts text
  | optional body, text => body.Accepts text ∨ text = []
  | group body, text => body.Accepts text

/-- The texts that a pattern reads, each with the texts that the groups capture from it. -/
def Reads : Pattern → Text → List Text → Prop
  | sequence first second, text, captures =>
      ∃ front back inFront inBack, text = front ++ back ∧ captures = inFront ++ inBack ∧
        first.Reads front inFront ∧ second.Reads back inBack
  | either first second, text, captures => first.Reads text captures ∨ second.Reads text captures
  | optional body, text, captures => body.Reads text captures ∨ text = [] ∧ captures = []
  | group body, text, captures => ∃ inner, body.Reads text inner ∧ captures = text :: inner
  | pattern, text, captures => pattern.Accepts text ∧ captures = []

/-- What a pattern captures from a text does not matter to whether it reads the text. -/
theorem Reads.accepts {pattern : Pattern} {text : Text} {captures : List Text}
    (h : pattern.Reads text captures) : pattern.Accepts text := by
  induction pattern generalizing text captures with
  | sequence first second ihFirst ihSecond =>
    rcases h with ⟨front, back, inFront, inBack, rfl, rfl, readFront, readBack⟩
    exact ⟨front, back, rfl, ihFirst readFront, ihSecond readBack⟩
  | either first second ihFirst ihSecond => exact h.imp ihFirst ihSecond
  | optional body ih => exact h.imp ih And.left
  | group body ih =>
    rcases h with ⟨inner, read, -⟩
    exact ih read
  | empty | one | times | star | plus | lazyStar | lineBreak => exact h.1

variable {α : Type}

attribute [local simp] run

theorem orElse_eq_some_iff {first second : Option α} {result : α} :
    (first <|> second) = some result ↔
      first = some result ∨ first = none ∧ second = some result := by
  cases first <;> simp

theorem runTimes_eq_some {set : CharSet} {count : Nat} {text : Text}
    {next : Text → Option α} {result : α} (h : runTimes set count text next = some result) :
    ∃ front rest, text = front ++ rest ∧ front.length = count ∧
      (∀ c ∈ front, set.accepts c = true) ∧ next rest = some result := by
  induction count generalizing text with
  | zero => exact ⟨[], text, rfl, rfl, by simp, h⟩
  | succ count ih =>
    cases text with
    | nil => simp [runTimes] at h
    | cons c rest =>
      rw [runTimes] at h
      split at h
      · rename_i accepted
        obtain ⟨front, left, rfl, length, all, taken⟩ := ih h
        refine ⟨c :: front, left, rfl, by simp [length], ?_, taken⟩
        rintro d (_ | ⟨_, member⟩)
        · exact accepted
        · exact all d member
      · simp at h

theorem runStar_eq_some {set : CharSet} {text : Text} {next : Text → Option α} {result : α}
    (h : runStar set text next = some result) :
    ∃ front rest, text = front ++ rest ∧ (∀ c ∈ front, set.accepts c = true) ∧
      next rest = some result := by
  induction text with
  | nil => exact ⟨[], [], rfl, by simp, h⟩
  | cons c rest ih =>
    rw [runStar] at h
    split at h
    · rename_i accepted
      rw [orElse_eq_some_iff] at h
      rcases h with further | ⟨_, here⟩
      · obtain ⟨front, left, rfl, all, taken⟩ := ih further
        refine ⟨c :: front, left, rfl, ?_, taken⟩
        rintro d (_ | ⟨_, member⟩)
        · exact accepted
        · exact all d member
      · exact ⟨[], c :: rest, rfl, by simp, here⟩
    · exact ⟨[], c :: rest, rfl, by simp, h⟩

theorem runLazy_eq_some {set : CharSet} {text : Text} {next : Text → Option α} {result : α}
    (h : runLazy set text next = some result) :
    ∃ front rest, text = front ++ rest ∧ (∀ c ∈ front, set.accepts c = true) ∧
      next rest = some result := by
  induction text with
  | nil => exact ⟨[], [], rfl, by simp, h⟩
  | cons c rest ih =>
    rw [runLazy, orElse_eq_some_iff] at h
    rcases h with here | ⟨_, further⟩
    · exact ⟨[], c :: rest, rfl, by simp, here⟩
    · split at further
      · rename_i accepted
        obtain ⟨front, left, rfl, all, taken⟩ := ih further
        refine ⟨c :: front, left, rfl, ?_, taken⟩
        rintro d (_ | ⟨_, member⟩)
        · exact accepted
        · exact all d member
      · simp at further

theorem runBreak_eq_some {text : Text} {next : Text → Option α} {result : α}
    (h : runBreak text next = some result) :
    ∃ front rest, text = front ++ rest ∧ lineBreak.Accepts front ∧ next rest = some result := by
  fun_cases runBreak text next with
  | case1 left =>
    simp only [runBreak] at h
    rw [orElse_eq_some_iff] at h
    rcases h with both | ⟨_, single⟩
    · exact ⟨['\r', '\n'], left, rfl, Or.inl rfl, both⟩
    · exact ⟨['\r'], '\n' :: left, rfl, Or.inr (Or.inl rfl), single⟩
  | case2 left plain =>
    simp only [runBreak] at h
    exact ⟨['\r'], left, rfl, Or.inr (Or.inl rfl), h⟩
  | case3 left => exact ⟨['\n'], left, rfl, Or.inr (Or.inr rfl), h⟩
  | case4 => simp_all [runBreak]

/-- What is read belongs to the language of the pattern, with the captures that are handed on. -/
theorem exists_reads_of_run {pattern : Pattern} {text : Text}
    {next : List Stretch → Text → Option α} {result : α}
    (h : pattern.run text next = some result) :
    ∃ front captures rest, text = front ++ rest ∧
      pattern.Reads front (captures.map Stretch.text) ∧ next captures rest = some result := by
  induction pattern generalizing text next result with
  | empty => exact ⟨[], [], text, rfl, ⟨rfl, rfl⟩, h⟩
  | one set =>
    simp only [run] at h
    split at h
    · simp at h
    · rename_i c rest
      split at h
      · rename_i accepted
        exact ⟨[c], [], rest, rfl, ⟨⟨c, rfl, accepted⟩, rfl⟩, h⟩
      · simp at h
  | times count set =>
    obtain ⟨front, rest, rfl, length, all, taken⟩ := runTimes_eq_some h
    exact ⟨front, [], rest, rfl, ⟨⟨length, all⟩, rfl⟩, taken⟩
  | star set =>
    obtain ⟨front, rest, rfl, all, taken⟩ := runStar_eq_some h
    exact ⟨front, [], rest, rfl, ⟨all, rfl⟩, taken⟩
  | plus set =>
    simp only [run] at h
    split at h
    · simp at h
    · rename_i c rest
      split at h
      · rename_i accepted
        obtain ⟨front, left, rfl, all, taken⟩ := runStar_eq_some h
        refine ⟨c :: front, [], left, rfl, ⟨⟨by simp, ?_⟩, rfl⟩, taken⟩
        rintro d (_ | ⟨_, member⟩)
        · exact accepted
        · exact all d member
      · simp at h
  | lazyStar set =>
    obtain ⟨front, rest, rfl, all, taken⟩ := runLazy_eq_some h
    exact ⟨front, [], rest, rfl, ⟨all, rfl⟩, taken⟩
  | lineBreak =>
    obtain ⟨front, rest, rfl, accepted, taken⟩ := runBreak_eq_some h
    exact ⟨front, [], rest, rfl, ⟨accepted, rfl⟩, taken⟩
  | sequence first second ihFirst ihSecond =>
    obtain ⟨front, captures, rest, rfl, readsFront, inner⟩ := ihFirst h
    obtain ⟨back, more, left, rfl, readsBack, taken⟩ := ihSecond inner
    exact ⟨front ++ back, captures ++ more, left, by simp,
      ⟨front, back, _, _, rfl, List.map_append, readsFront, readsBack⟩, taken⟩
  | either first second ihFirst ihSecond =>
    rw [run, orElse_eq_some_iff] at h
    rcases h with left | ⟨_, right⟩
    · obtain ⟨front, captures, rest, rfl, reads, taken⟩ := ihFirst left
      exact ⟨front, captures, rest, rfl, Or.inl reads, taken⟩
    · obtain ⟨front, captures, rest, rfl, reads, taken⟩ := ihSecond right
      exact ⟨front, captures, rest, rfl, Or.inr reads, taken⟩
  | optional body ih =>
    rw [run, orElse_eq_some_iff] at h
    rcases h with present | ⟨_, absent⟩
    · obtain ⟨front, captures, rest, rfl, reads, taken⟩ := ih present
      exact ⟨front, captures, rest, rfl, Or.inl reads, taken⟩
    · exact ⟨[], [], text, rfl, Or.inr ⟨rfl, rfl⟩, absent⟩
  | group body ih =>
    obtain ⟨front, captures, rest, rfl, reads, taken⟩ := ih h
    exact ⟨front, _, rest, rfl, ⟨_, reads, by simp⟩, taken⟩

theorem runTimes_isSome {set : CharSet} {front rest : Text} {next : Text → Option α}
    (all : ∀ c ∈ front, set.accepts c = true) (taken : (next rest).isSome = true) :
    (runTimes set front.length (front ++ rest) next).isSome = true := by
  induction front with
  | nil => exact taken
  | cons c front ih =>
    rw [List.length_cons, List.cons_append, runTimes, if_pos (all c (by simp))]
    exact ih fun d member => all d (by simp [member])

theorem runStar_isSome {set : CharSet} {front rest : Text} {next : Text → Option α}
    (all : ∀ c ∈ front, set.accepts c = true) (taken : (next rest).isSome = true) :
    (runStar set (front ++ rest) next).isSome = true := by
  induction front with
  | nil =>
    cases rest with
    | nil => exact taken
    | cons c rest =>
      rw [List.nil_append, runStar]
      split <;> simp [taken]
  | cons c front ih =>
    rw [List.cons_append, runStar, if_pos (all c (by simp))]
    simp [ih fun d member => all d (by simp [member])]

theorem runLazy_isSome {set : CharSet} {front rest : Text} {next : Text → Option α}
    (all : ∀ c ∈ front, set.accepts c = true) (taken : (next rest).isSome = true) :
    (runLazy set (front ++ rest) next).isSome = true := by
  induction front with
  | nil =>
    cases rest with
    | nil => exact taken
    | cons c rest => simp [runLazy, taken]
  | cons c front ih =>
    rw [List.cons_append, runLazy, if_pos (all c (by simp))]
    simp [ih fun d member => all d (by simp [member])]

theorem runBreak_isSome {front rest : Text} {next : Text → Option α}
    (accepted : lineBreak.Accepts front) (taken : (next rest).isSome = true) :
    (runBreak (front ++ rest) next).isSome = true := by
  rcases accepted with rfl | rfl | rfl
  · simp [runBreak, taken]
  · cases rest with
    | nil => exact taken
    | cons c rest =>
      by_cases feed : c = '\n'
      · subst feed
        simp [runBreak, taken]
      · simpa [runBreak, feed] using taken
  · simpa [runBreak] using taken

/-- If a text of the language stands at the front, something is read. -/
theorem run_isSome {pattern : Pattern} {front rest : Text}
    {next : List Stretch → Text → Option α} (accepted : pattern.Accepts front)
    (taken : ∀ captures, (next captures rest).isSome = true) :
    (pattern.run (front ++ rest) next).isSome = true := by
  induction pattern generalizing front rest next with
  | empty =>
    obtain rfl := accepted
    exact taken []
  | one set =>
    obtain ⟨c, rfl, member⟩ := accepted
    simp [member, taken]
  | times count set =>
    obtain ⟨rfl, all⟩ := accepted
    exact runTimes_isSome all (taken [])
  | star set => exact runStar_isSome accepted (taken [])
  | plus set =>
    obtain ⟨occupied, all⟩ := accepted
    cases front with
    | nil => exact absurd rfl occupied
    | cons c front =>
      simp only [List.cons_append, run, all c (by simp), if_true]
      exact runStar_isSome (fun d member => all d (by simp [member])) (taken [])
  | lazyStar set => exact runLazy_isSome accepted (taken [])
  | lineBreak => exact runBreak_isSome accepted (taken [])
  | sequence first second ihFirst ihSecond =>
    obtain ⟨a, b, rfl, acceptsA, acceptsB⟩ := accepted
    rw [List.append_assoc]
    exact ihFirst acceptsA fun captures =>
      ihSecond acceptsB fun more => taken (captures ++ more)
  | either first second ihFirst ihSecond =>
    rw [run]
    rcases accepted with left | right
    · simp [ihFirst left taken]
    · simp [ihSecond right taken]
  | optional body ih =>
    rw [run]
    rcases accepted with present | rfl
    · simp [ih present taken]
    · simp [taken]
  | group body ih => exact ih accepted fun captures => taken _

end Pattern

end Masthead
