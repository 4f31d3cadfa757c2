import Masthead.Pattern.Language

/-!
# The reading that is tried first

A pattern prefers one reading of a text when every continuation that accepts what this reading
leaves gets it.  Preference composes along a pattern: repetitions prefer the longest run, a line
break prefers both halves of a pair, an optional part prefers to be present.  An alternative that
reads no front of the text is passed over.
-/

namespace Masthead

namespace Pattern

/-- Of all readings of a text, the one with these captures and this rest is tried first: whenever
the continuation accepts it, it is the answer. -/
def Prefers (pattern : Pattern) (text : Text) (captures : List Stretch) (rest : Text) : Prop :=
  ∀ ⦃α : Type⦄ (next : List Stretch → Text → Option α),
    (next captures rest).isSome = true → pattern.run text next = next captures rest

/-- A pattern that reads no front of a text is refused there, whatever follows. -/
theorem run_eq_none
    {pattern : Pattern} {text : Text}
    (unread : ∀ front rest, text = front ++ rest → ¬ pattern.Accepts front)
    {α : Type} (next : List Stretch → Text → Option α) :
    pattern.run text next = none := by
  cases outcome : pattern.run text next with
  | none => rfl
  | some result =>
    rcases exists_reads_of_run outcome with ⟨front, captures, rest, place, reads, -⟩
    exact absurd reads.accepts (unread front rest place)

theorem orElse_of_isSome
    {α : Type} {first second : Option α}
    (present : first.isSome = true) :
    (first <|> second) = first := by
  cases first with
  | none => simp at present
  | some value => rfl

theorem prefers_empty (text : Text) : empty.Prefers text [] text := by
  intro α next _
  rfl

theorem prefers_one
    (set : CharSet) {c : Char}
    (accepted : set.accepts c = true)
    (rest : Text) :
    (one set).Prefers (c :: rest) [] rest := by
  intro α next _
  simp only [run, if_pos accepted]

theorem prefers_times
    (set : CharSet) {front : Text}
    (all : ∀ c ∈ front, set.accepts c = true)
    (rest : Text) :
    (times front.length set).Prefers (front ++ rest) [] rest := by
  intro α next _
  rw [run]
  induction front with
  | nil => rfl
  | cons c front ih =>
    rw [List.length_cons, List.cons_append, runTimes, if_pos (all c List.mem_cons_self)]
    exact ih fun d member => all d (List.mem_cons_of_mem c member)

/-- A greedy repetition that is accepted at the end of a maximal run reads that run. -/
theorem runStar_of_isSome
    {set : CharSet} {front rest : Text}
    (all : ∀ c ∈ front, set.accepts c = true)
    (boundary : ∀ c, rest.head? = some c → set.accepts c = false)
    {α : Type} {next : Text → Option α}
    (taken : (next rest).isSome = true) :
    runStar set (front ++ rest) next = next rest := by
  induction front with
  | nil =>
    cases rest with
    | nil => rfl
    | cons c rest => simp [runStar, boundary c rfl]
  | cons c front ih =>
    have inner := ih fun d member => all d (List.mem_cons_of_mem c member)
    rw [List.cons_append, runStar, if_pos (all c List.mem_cons_self), inner]
    exact orElse_of_isSome taken

theorem prefers_star
    (set : CharSet) {front rest : Text}
    (all : ∀ c ∈ front, set.accepts c = true)
    (boundary : ∀ c, rest.head? = some c → set.accepts c = false) :
    (star set).Prefers (front ++ rest) [] rest := by
  intro α next taken
  exact runStar_of_isSome all boundary taken

theorem prefers_star_absent
    (set : CharSet) {rest : Text}
    (boundary : ∀ c, rest.head? = some c → set.accepts c = false) :
    (star set).Prefers rest [] rest := by
  have nothing : ∀ c ∈ ([] : Text), set.accepts c = true := by simp
  exact prefers_star set nothing boundary

theorem prefers_plus
    (set : CharSet) {front rest : Text}
    (occupied : front ≠ [])
    (all : ∀ c ∈ front, set.accepts c = true)
    (boundary : ∀ c, rest.head? = some c → set.accepts c = false) :
    (plus set).Prefers (front ++ rest) [] rest := by
  intro α next taken
  cases front with
  | nil => exact absurd rfl occupied
  | cons c front =>
    simp only [run, List.cons_append, if_pos (all c List.mem_cons_self)]
    exact runStar_of_isSome (fun d member => all d (List.mem_cons_of_mem c member)) boundary taken

/-- A line break is read as a whole unless it is a carriage return before a stray line feed. -/
theorem prefers_lineBreak
    {ending rest : Text}
    (isBreak : lineBreak.Accepts ending)
    (whole : ending = ['\r'] → rest.head? ≠ some '\n') :
    lineBreak.Prefers (ending ++ rest) [] rest := by
  intro α next taken
  rcases isBreak with rfl | rfl | rfl
  · simp only [run, List.cons_append, List.nil_append, runBreak]
    exact orElse_of_isSome taken
  · cases rest with
    | nil => rfl
    | cons c rest =>
      have plain : c ≠ '\n' := by
        rintro rfl
        exact whole rfl rfl
      simp [run, runBreak, plain]
  · rfl

theorem Prefers.sequence
    {first second : Pattern} {text middle rest : Text} {captures more : List Stretch}
    (before : first.Prefers text captures middle)
    (after : second.Prefers middle more rest) :
    (Pattern.sequence first second).Prefers text (captures ++ more) rest := by
  intro α next taken
  have inner := after (fun more left => next (captures ++ more) left) taken
  rw [run, before, inner]
  rw [inner]
  exact taken

/-- A pattern that captures nothing leaves the captures to the next one. -/
theorem Prefers.silent_sequence
    {first second : Pattern} {text middle rest : Text} {captures : List Stretch}
    (before : first.Prefers text [] middle)
    (after : second.Prefers middle captures rest) :
    (Pattern.sequence first second).Prefers text captures rest :=
  before.sequence after

theorem Prefers.either_left
    {first second : Pattern} {text rest : Text} {captures : List Stretch}
    (prefers : first.Prefers text captures rest) :
    (Pattern.either first second).Prefers text captures rest := by
  intro α next taken
  rw [run, prefers next taken]
  exact orElse_of_isSome taken

theorem Prefers.either_right
    {first second : Pattern} {text rest : Text} {captures : List Stretch}
    (unread : ∀ front rest, text = front ++ rest → ¬ first.Accepts front)
    (prefers : second.Prefers text captures rest) :
    (Pattern.either first second).Prefers text captures rest := by
  intro α next taken
  rw [run, run_eq_none unread, prefers next taken]
  rfl

theorem Prefers.optional_present
    {body : Pattern} {text rest : Text} {captures : List Stretch}
    (prefers : body.Prefers text captures rest) :
    (Pattern.optional body).Prefers text captures rest := by
  intro α next taken
  rw [run, prefers next taken]
  exact orElse_of_isSome taken

theorem prefers_optional_absent
    {body : Pattern} {text : Text}
    (unread : ∀ front rest, text = front ++ rest → ¬ body.Accepts front) :
    (optional body).Prefers text [] text := by
  intro α next _
  rw [run, run_eq_none unread]
  rfl

/-- An optional part is passed over if what follows is refused wherever the part leaves off. -/
theorem run_optional_of_refused
    {body : Pattern} {text : Text}
    {α : Type} {next : List Stretch → Text → Option α}
    (refused : ∀ front rest captures, text = front ++ rest → body.Accepts front →
      next captures rest = none) :
    (optional body).run text next = next [] text := by
  have unread : body.run text next = none := by
    cases outcome : body.run text next with
    | none => rfl
    | some result =>
      rcases exists_reads_of_run outcome with ⟨front, captures, rest, place, reads, taken⟩
      rw [refused front rest captures place reads.accepts] at taken
      cases taken
  rw [run, unread]
  rfl

/-- A greedy repetition that is accepted after some run gives just that if reading on leads to the
same or to nothing. -/
theorem runStar_of_longer
    {set : CharSet} {front rest : Text}
    (all : ∀ c ∈ front, set.accepts c = true)
    {α : Type} {next : Text → Option α} {result : α}
    (taken : next rest = some result)
    (longer : ∀ more left, rest = more ++ left → (∀ c ∈ more, set.accepts c = true) →
      next left = none ∨ next left = some result) :
    runStar set (front ++ rest) next = some result := by
  induction front with
  | nil =>
    have nothing : ∀ c ∈ ([] : Text), set.accepts c = true := by simp
    have accepted : (next rest).isSome = true := by
      rw [taken]
      rfl
    have present := runStar_isSome nothing accepted
    rcases Option.isSome_iff_exists.1 present with ⟨other, read⟩
    rcases runStar_eq_some read with ⟨more, left, place, within, takenToo⟩
    rcases longer more left place within with refused | same
    · rw [refused] at takenToo
      cases takenToo
    · rw [read, ← takenToo, same]
  | cons c front ih =>
    rw [List.cons_append, runStar, if_pos (all c List.mem_cons_self),
      ih fun d member => all d (List.mem_cons_of_mem c member)]
    rfl

/-- A line break that is accepted after its own ending gives just that if a line feed that could be
read along leads to the same or to nothing. -/
theorem runBreak_of_longer
    {ending rest : Text}
    (isBreak : lineBreak.Accepts ending)
    {α : Type} {next : Text → Option α} {result : α}
    (taken : next rest = some result)
    (longer : ∀ left, rest = ['\n'] ++ left → next left = none ∨ next left = some result) :
    runBreak (ending ++ rest) next = some result := by
  rcases isBreak with rfl | rfl | rfl
  · simp [runBreak, taken]
  · cases rest with
    | nil => exact taken
    | cons c left =>
      by_cases feed : c = '\n'
      · subst feed
        rcases longer left rfl with refused | same
        · simp [runBreak, refused, taken]
        · simp [runBreak, same]
      · simpa [runBreak, feed] using taken
  · exact taken

/-- A lazy repetition reads as far as what follows is accepted for the first time. -/
theorem run_lazyStar_of_refused
    {set : CharSet} {front rest : Text}
    (all : ∀ c ∈ front, set.accepts c = true)
    {α : Type} {next : List Stretch → Text → Option α}
    (refused : ∀ shorter longer, front = shorter ++ longer → longer ≠ [] →
      next [] (longer ++ rest) = none)
    (taken : (next [] rest).isSome = true) :
    (lazyStar set).run (front ++ rest) next = next [] rest := by
  rw [run]
  induction front with
  | nil =>
    cases rest with
    | nil => rfl
    | cons c rest =>
      rw [List.nil_append, runLazy]
      exact orElse_of_isSome taken
  | cons c front ih =>
    have here := refused [] (c :: front) rfl (List.cons_ne_nil c front)
    rw [List.cons_append] at here ⊢
    rw [runLazy, here, if_pos (all c List.mem_cons_self)]
    apply ih fun d member => all d (List.mem_cons_of_mem c member)
    intro shorter longer place
    exact refused (c :: shorter) longer (by rw [place, List.cons_append])

/-- A lazy repetition reads no further than to the first place where what follows is accepted. -/
theorem exists_of_run_lazyStar
    {set : CharSet} {shorter longer : Text}
    (all : ∀ c ∈ shorter, set.accepts c = true)
    {α : Type} {next : List Stretch → Text → Option α} {result : α}
    (accepted : (next [] longer).isSome = true)
    (read : (lazyStar set).run (shorter ++ longer) next = some result) :
    ∃ front more, shorter = front ++ more ∧ next [] (more ++ longer) = some result := by
  rw [run] at read
  induction shorter with
  | nil =>
    refine ⟨[], [], rfl, ?_⟩
    cases longer with
    | nil => exact read
    | cons c longer =>
      rw [List.nil_append, runLazy, orElse_of_isSome accepted] at read
      exact read
  | cons c shorter ih =>
    rw [List.cons_append, runLazy, orElse_eq_some_iff, if_pos (all c List.mem_cons_self)] at read
    rcases read with here | ⟨-, further⟩
    · exact ⟨[], c :: shorter, rfl, here⟩
    · rcases ih (fun d member => all d (List.mem_cons_of_mem c member)) further with
        ⟨front, more, rfl, taken⟩
      exact ⟨c :: front, more, rfl, taken⟩

/-- The patterns of two lists are read one list after the other. -/
theorem run_concat_append
    {α : Type} (first second : List Pattern) (text : Text) (next : List Stretch → Text → Option α) :
    (concat (first ++ second)).run text next =
      (concat first).run text fun captures rest =>
        (concat second).run rest fun more left => next (captures ++ more) left := by
  induction first generalizing text next with
  | nil => rfl
  | cons pattern first ih =>
    simp only [List.cons_append, concat_cons, run, ih, List.append_assoc]

/-- Where some patterns and a last one read, the last one reads what the others leave. -/
theorem exists_of_run_concat
    {patterns : List Pattern} {last : Pattern} {text : Text}
    {α : Type} {next : List Stretch → Text → Option α} {result : α}
    (h : (concat (patterns ++ [last])).run text next = some result) :
    ∃ front captures rest, text = front ++ rest ∧ (concat patterns).Accepts front ∧
      last.run rest (fun more left => next (captures ++ more) left) = some result := by
  induction patterns generalizing text next with
  | nil =>
    refine ⟨[], [], text, rfl, rfl, ?_⟩
    simpa [concat, run] using h
  | cons pattern patterns ih =>
    rw [List.cons_append, concat, List.foldr_cons, run] at h
    rcases exists_reads_of_run h with ⟨front, captures, rest, rfl, reads, taken⟩
    rcases ih taken with ⟨back, more, left, rfl, accepted, takenLast⟩
    refine ⟨front ++ back, captures ++ more, left, by simp, ?_, ?_⟩
    · exact ⟨front, back, rfl, reads.accepts, accepted⟩
    · simpa [List.append_assoc] using takenLast

theorem Prefers.group
    {body : Pattern} {text rest : Text} {captures : List Stretch}
    (prefers : body.Prefers text captures rest) :
    (Pattern.group body).Prefers text (⟨text, rest⟩ :: captures) rest := by
  intro α next taken
  rw [run]
  exact prefers (fun captures rest => next (⟨text, rest⟩ :: captures) rest) taken

end Pattern

namespace Piece

variable {stop : Text → Bool}

/-- If the others read what a pattern leaves when it has its way, its way is taken. -/
theorem readAll_of_prefers
    {pattern : Pattern} {others : List Pattern} {front rest : Text} {captures : List Stretch}
    {pieces : List Piece}
    (prefers : pattern.Prefers (front ++ rest) captures rest)
    (read : readAll stop others rest = some pieces) :
    readAll stop (pattern :: others) (front ++ rest) =
      some (⟨front, captures.map Stretch.text⟩ :: pieces) := by
  rw [readAll, prefers]
  · simp [read]
  · simp [read]

/-- A lazy repetition captures up to the first place where the others read. -/
theorem readAll_of_refused
    {set : CharSet} {others : List Pattern} {front rest : Text} {pieces : List Piece}
    (all : ∀ c ∈ front, set.accepts c = true)
    (refused : ∀ shorter longer, front = shorter ++ longer → longer ≠ [] →
      readAll stop others (longer ++ rest) = none)
    (read : readAll stop others rest = some pieces) :
    readAll stop (.lazyStar set :: others) (front ++ rest) = some (⟨front, []⟩ :: pieces) := by
  rw [readAll, Pattern.run_lazyStar_of_refused all]
  · simp [read]
  · intro shorter longer place occupied
    rw [refused shorter longer place occupied, Option.map_none]
  · simp [read]

end Piece

end Masthead
