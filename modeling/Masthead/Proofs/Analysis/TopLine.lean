import Mathlib.Order.Bounds.Defs
import Masthead.Analysis
import Masthead.Proofs.Segment.Token

/-!
# The first line that shows something

What concerns a whole file is reported from the start of its text to the end of the first line that
shows something.  Only carriage returns and line feeds end a line, while many other characters are
blank, some of which end lines elsewhere.  A line end is blank itself, so the first character that
shows something stands inside a line and all lines above it are blank.

The text is searched line by line.  The main theorem says where the line ends without cutting the
text into lines: at the first carriage return or line feed after the first character that shows
something.
-/

namespace Masthead

/-! ## Without lines -/

namespace Text

/-- The places of a text, from an index on, at which a line ends: at a carriage return, at a line
feed and at the end of the text. -/
def lineStops (text : Text) (first : Nat) : Set Nat :=
  {stop | first ≤ stop ∧
    (text[stop]? = some '\r' ∨ text[stop]? = some '\n' ∨ stop = text.length)}

/-- Where the first line that shows something ends, found without cutting the text into lines: at
the first line end after the first character that shows something, or at the end of the text. -/
def shownLineEnd? (text : Text) : Option Nat :=
  (text.findIdx? (!isBlank ·)).map fun first => first + (text.drop first).findIdx isLineEnd

theorem findIdx?_shown_of_within {blanks : Text} (blank : blanks.Within isBlank) :
    blanks.findIdx? (!isBlank ·) = none :=
  List.findIdx?_eq_none_iff.2 fun c member => by simp [blank c member]

/-- Blanks above a text only move the end of its first line that shows something. -/
theorem shownLineEnd?_append_of_within
    {blanks : Text}
    (blank : blanks.Within isBlank)
    (text : Text) :
    shownLineEnd? (blanks ++ text) = text.shownLineEnd?.map (blanks.length + ·) := by
  rw [shownLineEnd?, shownLineEnd?, List.findIdx?_append, findIdx?_shown_of_within blank,
    Option.none_or, Option.map_map, Option.map_map]
  congr 1
  funext first
  simp only [Function.comp_apply]
  rw [Nat.add_comm first, List.drop_append, List.drop_eq_nil_of_le (by omega), List.nil_append,
    Nat.add_sub_cancel_left, Nat.add_assoc]

/-- A line ends directly after its content. -/
theorem findIdx_isLineEnd_append
    {content after : Text}
    (inLine : content.Within (!isLineEnd ·))
    (stops : ∀ c, after.head? = some c → isLineEnd c = true) :
    (content ++ after).findIdx isLineEnd = content.length := by
  have unbroken : content.findIdx isLineEnd = content.length :=
    List.findIdx_eq_length_of_false fun c member => by simpa using inLine c member
  rw [List.findIdx_append, unbroken, if_neg (Nat.lt_irrefl _)]
  cases after with
  | nil => simp
  | cons c rest => simp [List.findIdx_cons, stops c rfl]

/-- If the first line of a text shows something, then it ends where its content ends. -/
theorem shownLineEnd?_append_of_shown
    {content after : Text}
    (inLine : content.Within (!isLineEnd ·))
    (stops : ∀ c, after.head? = some c → isLineEnd c = true)
    (shown : content.isAllBlank = false) :
    shownLineEnd? (content ++ after) = some content.length := by
  cases found : content.findIdx? (!isBlank ·) with
  | none =>
    have blank : content.isAllBlank = true :=
      List.all_eq_true.2 fun c member => by
        simpa using List.findIdx?_eq_none_iff.1 found c member
    rw [blank] at shown
    cases shown
  | some first =>
    have inside : first < content.length := (List.findIdx?_eq_some_iff_findIdx_eq.1 found).1
    have rest : Text.Within (!isLineEnd ·) (content.drop first) :=
      fun c member => inLine c (List.mem_of_mem_drop member)
    rw [shownLineEnd?, List.findIdx?_append, found, Option.some_or, Option.map_some,
      List.drop_append_of_le_length inside.le, findIdx_isLineEnd_append rest stops,
      List.length_drop, Nat.add_sub_cancel' inside.le]

theorem isLineEnd_of_head?_dropWhile
    {text : Text} {c : Char}
    (first : (text.dropWhile (!isLineEnd ·)).head? = some c) :
    isLineEnd c = true := by
  simpa using head?_dropWhile_fails first

theorem shownLineEnd?_of_takeWhile
    {text content : Text}
    (front : text.takeWhile (!isLineEnd ·) = content)
    (shown : content.isAllBlank = false) :
    text.shownLineEnd? = some content.length := by
  have inLine : content.Within (!isLineEnd ·) := by
    intro c member
    rw [← front] at member
    exact List.mem_takeWhile_imp (p := (!isLineEnd ·)) member
  rw [← List.takeWhile_append_dropWhile (p := (!isLineEnd ·)) (l := text), front]
  exact shownLineEnd?_append_of_shown inLine (fun _ => isLineEnd_of_head?_dropWhile) shown

/-- The first line end from an index on is the least place there at which a line ends. -/
theorem isLeast_lineStops
    {text : Text} {first : Nat}
    (inside : first ≤ text.length) :
    IsLeast (text.lineStops first) (first + (text.drop first).findIdx isLineEnd) := by
  have bound : (text.drop first).findIdx isLineEnd ≤ text.length - first := by
    rw [← List.length_drop]
    exact List.findIdx_le_length
  refine ⟨⟨Nat.le_add_right _ _, ?_⟩, ?_⟩
  · cases stopped : (text.drop first)[(text.drop first).findIdx isLineEnd]? with
    | none =>
      rw [List.getElem?_eq_none_iff, List.length_drop] at stopped
      exact Or.inr (Or.inr (by omega))
    | some c =>
      have ends : isLineEnd c = true := List.findIdx_of_getElem?_eq_some stopped
      rw [List.getElem?_drop] at stopped
      simp only [isLineEnd, Bool.or_eq_true, beq_iff_eq] at ends
      rcases ends with rfl | rfl
      · exact Or.inl stopped
      · exact Or.inr (Or.inl stopped)
  · rintro stop ⟨later, ends⟩
    by_contra! early
    have before : stop - first < (text.drop first).findIdx isLineEnd := by omega
    have plain : ∀ c, text[stop]? = some c → isLineEnd c = false := by
      intro c there
      rw [← Nat.add_sub_cancel' later, ← List.getElem?_drop] at there
      rcases List.getElem?_eq_some_iff.1 there with ⟨_, rfl⟩
      exact List.not_of_lt_findIdx before
    rcases ends with atReturn | atFeed | atEnd
    · cases plain '\r' atReturn
    · cases plain '\n' atFeed
    · omega

end Text

/-! ## Line by line -/

/-- Going through the lines of a text finds where its first line that shows something ends. -/
theorem topLineFrom_lines (skipped : Nat) (text : Text) :
    topLineFrom skipped text.lines = text.shownLineEnd?.map (skipped + ·) := by
  -- A line that is all blank goes together with its break, which is blank as well.
  fun_induction Text.lines text generalizing skipped with
  | case1 text nothing =>
    rw [List.isEmpty_iff.1 nothing]
    rfl
  | case2 text _ content ending rest broken ih =>
    rw [topLineFrom]
    split
    · rename_i blank
      have parts : text = content ++ ending ++ rest := by
        rw [List.append_assoc, ← Text.eq_append_of_leadingBreak? broken]
        exact List.takeWhile_append_dropWhile.symm
      have isBreak := (Text.isBreak_of_leadingBreak? broken).1
      have blanks : Text.Within isBlank (content ++ ending) :=
        Text.Within.append (List.all_eq_true.1 blank) fun c member =>
          isBlank_of_isLineEnd (Text.within_isLineEnd_of_isBreak isBreak c member)
      rw [ih, parts, Text.shownLineEnd?_append_of_within blanks, Option.map_map]
      simp [Function.comp_def, Nat.add_assoc]
    · rename_i shown
      rw [Text.shownLineEnd?_of_takeWhile rfl (by simpa using shown)]
      rfl
  | case3 text occupied content unbroken =>
    rw [topLineFrom]
    split
    · rename_i blank
      have ended : text.dropWhile (!isLineEnd ·) = [] := by
        rw [← List.head?_eq_none_iff, Option.eq_none_iff_forall_ne_some]
        intro c first
        have plain := Text.not_isLineEnd_of_leadingBreak? unbroken first
        rw [Text.isLineEnd_of_head?_dropWhile first] at plain
        cases plain
      have parts : text = content ++ [] := by
        rw [← ended]
        exact List.takeWhile_append_dropWhile.symm
      rw [parts, Text.shownLineEnd?_append_of_within (List.all_eq_true.1 blank)]
      rfl
    · rename_i shown
      rw [Text.shownLineEnd?_of_takeWhile rfl (by simpa using shown)]
      rfl

theorem topLineLength_eq_shownLineEnd? (text : Text) :
    topLineLength text = text.shownLineEnd?.getD text.length := by
  rw [topLineLength, topLineFrom_lines]
  simp only [Nat.zero_add, Option.map_id_fun', id]

theorem topLineLength_of_blank {text : Text} (blank : text.findIdx? (!isBlank ·) = none) :
    topLineLength text = text.length := by
  rw [topLineLength_eq_shownLineEnd?, Text.shownLineEnd?, blank]
  rfl

theorem isLeast_topLineLength
    {text : Text} {first : Nat}
    (shown : text.findIdx? (!isBlank ·) = some first) :
    IsLeast (text.lineStops first) (topLineLength text) := by
  have inside : first < text.length := (List.findIdx?_eq_some_iff_findIdx_eq.1 shown).1
  rw [topLineLength_eq_shownLineEnd?, Text.shownLineEnd?, shown]
  exact Text.isLeast_lineStops inside.le

theorem topLineLength_le_length (text : Text) : topLineLength text ≤ text.length := by
  cases found : text.findIdx? (!isBlank ·) with
  | none => exact (topLineLength_of_blank found).le
  | some first =>
    have inside : first < text.length := (List.findIdx?_eq_some_iff_findIdx_eq.1 found).1
    exact (isLeast_topLineLength found).2 ⟨inside.le, Or.inr (Or.inr rfl)⟩

/-- A text that is all blank is reported on as a whole.  Of any other text the part is reported on
that begins where the text begins, and ends at the first carriage return or line feed after the
first character that shows something, or with the text if there is none.  So this part lies within
the text, and its last line holds no line end. -/
theorem topLineLength_isLeast (text : Text) :
    (match text.findIdx? (!isBlank ·) with
      | none => topLineLength text = text.length
      | some first =>
          IsLeast (text.lineStops first) (topLineLength text) ∧
            ∀ index, first ≤ index → index < topLineLength text →
              text[index]? ≠ some '\r' ∧ text[index]? ≠ some '\n') ∧
      topLineLength text ≤ text.length ∧
      (Analysis.ofAbsence text).diagnostics.map (fun shown => (shown.start, shown.length)) =
        [(0, (topLineLength text : Int))] ∧
      ∀ problem, (Analysis.ofProblem text problem).diagnostics.map
        (fun shown => (shown.start, shown.length)) = [(0, (topLineLength text : Int))] := by
  refine ⟨?_, topLineLength_le_length text, rfl, fun _ => rfl⟩
  split
  · rename_i blank
    exact topLineLength_of_blank blank
  · rename_i first shown
    have least := isLeast_topLineLength shown
    refine ⟨least, fun index later early => ⟨fun atReturn => ?_, fun atFeed => ?_⟩⟩
    · exact Nat.not_lt.2 (least.2 ⟨later, Or.inl atReturn⟩) early
    · exact Nat.not_lt.2 (least.2 ⟨later, Or.inr (Or.inl atFeed)⟩) early

/-- A line separator and a vertical tab are blank and end no line. -/
example : topLineLength " \u2028\r\n\u0085 x\u2029y\x0b\r\nz".toList = 10 := by
  cbv

end Masthead
