import Masthead.Proofs.File.Store
import Masthead.Proofs.Segment.Rereading
import Masthead.Proofs.Template.UnifiedBreaks
import Masthead.Template.Cache
import Masthead.Template.Render

/-!
# Templates from files and from texts

A template file is read with its line breaks unified, and the same text given directly is read as it
is.  So the two templates differ in the spelling of their line breaks, and so do the headers that
they write.  They are one template exactly if the file has no carriage return; a text that is
refused is refused for the same reason, unless a name with a carriage return is quoted.
-/

namespace Masthead

namespace Segment

/-! ## The headers of unified templates -/

/-- Only a text can begin a header with a line feed. -/
theorem head?_renderAll_ne_feed
    {segments : List Segment}
    (alternating : alternates segments = true)
    (noText : ∀ literal rest, segments ≠ .text literal :: rest)
    (current : CurrentYear) :
    (renderAll current segments []).head? ≠ some '\n' := by
  rcases exists_cons_of_isYear (isYear_current current) with ⟨c, rest, year, decimal⟩
  have other : c ≠ '\n' := by
    rintro rfl
    cases decimal
  cases segments with
  | nil => simp [renderAll]
  | cons segment segments =>
    cases segment with
    | text literal => exact absurd rfl (noText literal segments)
    | year => simpa [renderAll, render, year] using other
    | yearRange => simpa [renderAll, render, year] using other
    | name placeholder => cases alternating

/-- Unifying the breaks of segments that alternate unifies those of the header they write. -/
theorem renderAll_unifyBreaks
    {segments : List Segment}
    (alternating : alternates segments = true)
    (current : CurrentYear) :
    renderAll current (segments.map unifyBreaks) [] =
      Text.unifyBreaks (renderAll current segments []) := by
  have year : '\r' ∉ numeral current.value := notMem_numeral rfl current
  induction segments with
  | nil => rfl
  | cons segment segments ih =>
    have others := ih (alternates_of_cons alternating)
    rw [List.map_cons, renderAll, renderAll, List.tail_nil, others]
    cases segment with
    | text literal =>
      rcases alternates_text_cons_iff.1 alternating with ⟨-, noText, alternatingToo⟩
      have noFeed := head?_renderAll_ne_feed alternatingToo noText current
      exact (Text.unifyBreaks_append fun _ => noFeed).symm
    | year => exact (Text.unifyBreaks_append_of_notMem year _).symm
    | yearRange => exact (Text.unifyBreaks_append_of_notMem year _).symm
    | name placeholder => cases alternating

end Segment

namespace Template

theorem renderFresh_unifyBreaks
    {source : Text} {template : Template}
    (parsed : parse source = .ok template)
    (current : CurrentYear) :
    template.unifyBreaks.renderFresh current = (template.renderFresh current).unifyBreaks :=
  Segment.renderAll_unifyBreaks (alternates_of_parse parsed) current

end Template

/-! ## The load of a text -/

namespace TemplateLoad

variable {source : Text}

theorem ofText_of_parse
    {template : Template}
    (parsed : Template.parse source = .ok template)
    (path : Path) :
    ofText source path = ⟨.template template, some path⟩ := by
  have occupied : source.isEmpty = false := by
    rw [List.isEmpty_eq_false_iff]
    rintro rfl
    rw [Template.parse_nil] at parsed
    cases parsed
  simp [ofText, occupied, parsed]

theorem ofText_of_refused
    {error : ParseError}
    (occupied : source ≠ [])
    (refused : Template.parse source = .error error)
    (path : Path) :
    ofText source path =
      ⟨.problem (.saying .misconfiguredTemplate 0 0 (parseMessage path error)), some path⟩ := by
  simp [ofText, occupied, refused]

theorem message_saying_misconfigured (start length : Int) (message : String) :
    (Diagnostic.saying .misconfiguredTemplate start length message).message = message := by
  simp [Diagnostic.saying, Diagnostic.create, Rule.format, FormatPart.fillAll, FormatPart.fill,
    String.join]

/-- The load of a text, whichever path it comes from: nothing, a template or an error. -/
theorem ofText_cases (source : Text) :
    (source = [] ∧ ∀ path, ofText source path = ⟨.disabled, some path⟩) ∨
      (∃ template, source ≠ [] ∧ Template.parse source = .ok template ∧
        ∀ path, ofText source path = ⟨.template template, some path⟩) ∨
      ∃ error, source ≠ [] ∧ Template.parse source = .error error ∧
        ∀ path, ofText source path =
          ⟨.problem (.saying .misconfiguredTemplate 0 0 (parseMessage path error)), some path⟩ := by
  by_cases occupied : source = []
  · subst occupied
    exact Or.inl ⟨rfl, fun _ => rfl⟩
  · right
    cases read : Template.parse source with
    | ok template => exact Or.inl ⟨template, occupied, rfl, ofText_of_parse read⟩
    | error error => exact Or.inr ⟨error, occupied, rfl, ofText_of_refused occupied read⟩

theorem path_ofText (source : Text) (path : Path) : (ofText source path).path = some path := by
  rcases ofText_cases source with ⟨-, loads⟩ | ⟨_, -, -, loads⟩ | ⟨_, -, -, loads⟩
  all_goals rw [loads]

theorem template?_ofText (source : Text) (path : Path) :
    (ofText source path).template? = (Template.parse source).toOption := by
  rcases ofText_cases source with
    ⟨rfl, loads⟩ | ⟨template, -, parsed, loads⟩ | ⟨error, -, refused, loads⟩
  · rw [Template.parse_nil]
    rfl
  · rw [loads, parsed]
    rfl
  · rw [loads, refused]
    rfl

/-- Only an empty source turns checking off. -/
theorem isDisabled_ofText (source : Text) (path : Path) :
    (ofText source path).isDisabled = source.isEmpty := by
  rcases ofText_cases source with
    ⟨rfl, loads⟩ | ⟨_, occupied, -, loads⟩ | ⟨_, occupied, -, loads⟩
  · rfl
  · rw [loads, List.isEmpty_eq_false_iff.2 occupied]
    rfl
  · rw [loads, List.isEmpty_eq_false_iff.2 occupied]
    rfl

/-- Two loads are alike if they give the same template, the same error or nothing, though the error
may be told of two paths. -/
inductive Alike : TemplateLoad → TemplateLoad → Prop
  | template (template : Template) (first second : Path) :
      Alike ⟨.template template, some first⟩ ⟨.template template, some second⟩
  | refused (error : ParseError) (first second : Path) :
      Alike
        ⟨.problem (.saying .misconfiguredTemplate 0 0 (parseMessage first error)), some first⟩
        ⟨.problem (.saying .misconfiguredTemplate 0 0 (parseMessage second error)), some second⟩
  | disabled (first second : Path) : Alike ⟨.disabled, some first⟩ ⟨.disabled, some second⟩

theorem alike_ofText (source : Text) (first second : Path) :
    (ofText source first).Alike (ofText source second) := by
  rcases ofText_cases source with
    ⟨-, loads⟩ | ⟨template, -, -, loads⟩ | ⟨error, -, -, loads⟩
  · rw [loads, loads]
    exact .disabled first second
  · rw [loads, loads]
    exact .template template first second
  · rw [loads, loads]
    exact .refused error first second

/-! ## The load of a text with unified breaks -/

theorem isDisabled_ofText_unifyBreaks (source : Text) (path : Path) :
    (ofText source.unifyBreaks path).isDisabled = (ofText source path).isDisabled := by
  rw [isDisabled_ofText, isDisabled_ofText, Bool.eq_iff_iff, List.isEmpty_iff, List.isEmpty_iff]
  exact Text.unifyBreaks_eq_nil_iff

theorem template?_ofText_unifyBreaks (source : Text) (path : Path) :
    (ofText source.unifyBreaks path).template? =
      (ofText source path).template?.map Template.unifyBreaks := by
  rw [template?_ofText, template?_ofText]
  cases read : Template.parse source with
  | ok template =>
    rw [Template.parse_unifyBreaks read]
    rfl
  | error error =>
    rcases Template.exists_parse_unifyBreaks_eq_error read with ⟨other, refused, -⟩
    rw [refused]
    rfl

theorem ofText_unifyBreaks_of_refused
    {error : ParseError}
    (occupied : source ≠ [])
    (refused : Template.parse source = .error error)
    (path : Path) :
    ofText source.unifyBreaks path =
      ⟨.problem (.saying .misconfiguredTemplate 0 0 (parseMessage path error.unifyBreaks)),
        some path⟩ := by
  rcases Template.exists_parse_unifyBreaks_eq_error refused with ⟨other, refusedToo, same⟩
  have occupiedToo : source.unifyBreaks ≠ [] := by rwa [Ne, Text.unifyBreaks_eq_nil_iff]
  rw [ofText_of_refused occupiedToo refusedToo, parseMessage, parseMessage, same]

/-- Unifying the breaks of a text changes its load unless there is no carriage return in it, or none
in the message that it is refused with. -/
theorem ofText_unifyBreaks_eq_iff (source : Text) (path : Path) :
    ofText source.unifyBreaks path = ofText source path ↔
      '\r' ∉ source ∨
        ∃ error, Template.parse source = .error error ∧ '\r' ∉ error.message.toList := by
  by_cases plain : '\r' ∉ source
  · rw [Text.unifyBreaks_eq_self plain]
    exact iff_of_true rfl (Or.inl plain)
  · have occupied : source ≠ [] := by
      rintro rfl
      simp at plain
    cases read : Template.parse source with
    | ok template =>
      rw [ofText_of_parse read, ofText_of_parse (Template.parse_unifyBreaks read)]
      simp [plain, Template.unifyBreaks_eq_self_iff_of_parse read]
    | error error =>
      rw [ofText_unifyBreaks_of_refused occupied read, ofText_of_refused occupied read]
      simp only [plain, false_or, Except.error.injEq, exists_eq_left',
        ← ParseError.message_unifyBreaks_eq_iff]
      constructor
      · intro same
        simp only [mk.injEq, Lookup.problem.injEq, and_true] at same
        have messages := congrArg Diagnostic.message same
        rw [message_saying_misconfigured, message_saying_misconfigured, parseMessage,
          parseMessage] at messages
        exact (String.append_right_inj _).1 messages
      · intro same
        rw [parseMessage, parseMessage, same]

end TemplateLoad

/-! ## The first load of a file -/

namespace TemplateCache

variable {cache : TemplateCache} {store : Store} {path : Path} {location : Location} {file : File}

/-- A file of which nothing is remembered is read. -/
theorem load_of_get?_eq_none
    {text : Text}
    (opened : store.openFile path = .ok (location, file))
    (first : cache.get? location file.version = none)
    (decoded : Utf8.decode file.content = .ok text) :
    cache.load store path =
      .ok (⟨.ofText text.unifyBreaks path, some cache.readings⟩,
        cache.put location file.version
          ⟨.ofText text.unifyBreaks path, some cache.readings⟩) := by
  simp [load, opened, first, read, decoded, Except.mapError, bind, Except.bind]

end TemplateCache

namespace TemplateFiles

theorem load_singleton
    {cache : TemplateCache} {store : Store} {path : Path} {suffix : String}
    (fitting : Path.endsWith path.name suffix = true)
    (isFile : store.isFile path = .ok true) :
    load cache store [path] suffix = cache.load store path := by
  simp [load, select, fitting, isFile, Except.mapError, bind, Except.bind]

/-- A template file that is read for the first time is what its text is, with the line breaks of
the template unified and with them those of every header it writes.  The two loads are the same
exactly if the text has no carriage return or is refused with a message that has none. -/
theorem load_eq_ofText_iff
    {cache : TemplateCache} {store : Store} {path : Path} {suffix : String} {location : Location}
    {file : File} {text : Text}
    (fitting : Path.endsWith path.name suffix = true)
    (named : path.hasNul = false)
    (opened : store.openFile path = .ok (location, file))
    (first : cache.get? location file.version = none)
    (decoded : Utf8.decode file.content = .ok text) :
    ∃ loaded after, load cache store [path] suffix = .ok (loaded, after) ∧
      loaded.load.path = (TemplateLoad.ofText text path).path ∧
      loaded.load.isDisabled = (TemplateLoad.ofText text path).isDisabled ∧
      loaded.load.template? =
        (TemplateLoad.ofText text path).template?.map Template.unifyBreaks ∧
      (∀ template current, Template.parse text = .ok template →
        template.unifyBreaks.renderFresh current = (template.renderFresh current).unifyBreaks) ∧
      (∀ error, text ≠ [] → Template.parse text = .error error →
        loaded.load.diagnostic? =
          some (.saying .misconfiguredTemplate 0 0
            (TemplateLoad.parseMessage path error.unifyBreaks))) ∧
      (loaded.load = TemplateLoad.ofText text path ↔
        '\r' ∉ text ∨
          ∃ error, Template.parse text = .error error ∧ '\r' ∉ error.message.toList) := by
  have isFile := Store.isFile_eq_ok_true_iff.2 ⟨named, location, file, opened⟩
  have loads := TemplateCache.load_of_get?_eq_none opened first decoded
  refine ⟨_, _, (load_singleton fitting isFile).trans loads, ?_,
    TemplateLoad.isDisabled_ofText_unifyBreaks text path,
    TemplateLoad.template?_ofText_unifyBreaks text path,
    fun template current parsed => Template.renderFresh_unifyBreaks parsed current, ?_,
    TemplateLoad.ofText_unifyBreaks_eq_iff text path⟩
  · rw [TemplateLoad.path_ofText, TemplateLoad.path_ofText]
  · intro error occupied refused
    rw [TemplateLoad.ofText_unifyBreaks_of_refused occupied refused]
    rfl

def samplePath : Path := ⟨.here, ["t.template"]⟩

/-- A template file of one line, which ends in a carriage return and a line feed. -/
def sampleFile : File := ⟨[0x23, 0x20, 0x78, 0x0D, 0x0A], .set 0⟩

def sampleStore : Store := ⟨[(["t.template"], .file sampleFile)], [], 0⟩

theorem load_eq_ofText_sample :
    ∃ loaded after,
      load .empty sampleStore [samplePath] ".template" = .ok (loaded, after) ∧
        loaded.load ≠ TemplateLoad.ofText ['#', ' ', 'x', '\r', '\n'] samplePath := by
  have fitting : Path.endsWith samplePath.name ".template" = true := by decide +kernel
  have opened : sampleStore.openFile samplePath = .ok (["t.template"], sampleFile) := by
    decide +kernel
  have first : TemplateCache.empty.get? ["t.template"] sampleFile.version = none := rfl
  have decoded : Utf8.decode sampleFile.content = .ok ['#', ' ', 'x', '\r', '\n'] := by
    decide +kernel
  have parsed : Template.parse ['#', ' ', 'x', '\r', '\n'] =
      .ok ⟨[.text ['#', ' ', 'x', '\r', '\n']], by simp⟩ := by
    decide +kernel
  rcases load_eq_ofText_iff fitting (by decide +kernel) opened first decoded with
    ⟨loaded, after, loads, -, -, -, -, -, same⟩
  refine ⟨loaded, after, loads, ?_⟩
  rw [Ne, same, parsed]
  simp

/-- The line break of the file does not reach the template. -/
theorem load_loses_returns :
    Utf8.decode sampleFile.content = .ok ['#', ' ', 'x', '\r', '\n'] ∧
      (load .empty sampleStore [samplePath] ".template").map (·.1.load.template?) =
        .ok (some ⟨[.text ['#', ' ', 'x', '\n']], by simp⟩) ∧
      (TemplateLoad.ofText ['#', ' ', 'x', '\r', '\n'] samplePath).template? =
        some ⟨[.text ['#', ' ', 'x', '\r', '\n']], by simp⟩ := by
  decide +kernel

end TemplateFiles

end Masthead
