import Masthead.Proofs.Template.Load

/-!
# What looking up a template ends in

The outcome depends on the candidates whose names end in the suffix: with none of them the template
is missing, with several it is misconfigured, and a single one is read.  Two things are not turned
into a diagnostic: bytes that are no UTF-8, and a path that is too long to ask about.
-/

namespace Masthead

namespace Utf8

/-- Only no bytes are decoded to no characters. -/
theorem decode_eq_ok_nil_iff {content : List UInt8} : decode content = .ok [] ↔ content = [] := by
  rw [decode]
  fun_cases decodeAt 0 content with
  | case1 => simp
  | _ => simp [Item.map_eq_ok_iff]

end Utf8

namespace Template

/-- Bytes give a template if they encode a text that does. -/
def GivenBy (template : Template) (content : List UInt8) : Prop :=
  ∃ text, Utf8.decode content = .ok text ∧ parse text = .ok template

theorem GivenBy.unique
    {template other : Template} {content : List UInt8}
    (given : template.GivenBy content)
    (givenToo : other.GivenBy content) :
    template = other := by
  rcases given with ⟨text, decoded, parsed⟩
  rcases givenToo with ⟨_, decodedToo, parsedToo⟩
  rw [decoded] at decodedToo
  cases decodedToo
  rw [parsed] at parsedToo
  exact Except.ok.inj parsedToo

theorem not_givenBy_nil (template : Template) : ¬ template.GivenBy [] := by
  rintro ⟨text, decoded, parsed⟩
  obtain rfl : [] = text := Except.ok.inj decoded
  rw [parse_nil] at parsed
  cases parsed

end Template

namespace TemplateCache

/-! ## Reading bytes -/

variable {path : Path} {content : List UInt8}

theorem read_eq_error_iff {error : LoadError} :
    read path content = .error error ↔
      ∃ fault, Utf8.decode content = .error fault ∧ error = .encoding fault := by
  rw [read]
  cases Utf8.decode content with
  | error fault => simp [Except.mapError, bind, Except.bind, eq_comm]
  | ok text => simp [Except.mapError, bind, Except.bind]

/-- Bytes that can be read are one of three things: none at all, a template, or neither. -/
theorem read_cases
    {load : TemplateLoad}
    (reads : read path content = .ok load) :
    content = [] ∧ load = ⟨.disabled, some path⟩ ∨
      (∃ template : Template, template.GivenBy content ∧
        load = ⟨.template template.unifyBreaks, some path⟩) ∨
      (content ≠ [] ∧ ∀ template : Template, ¬ template.GivenBy content) ∧
        ∃ message, load = ⟨.problem (.saying .misconfiguredTemplate 0 0 message), some path⟩ := by
  cases decoded : Utf8.decode content with
  | error fault =>
    rw [read, decoded] at reads
    cases reads
  | ok text =>
    rw [read, decoded] at reads
    obtain rfl := Except.ok.inj reads
    by_cases occupied : text = []
    · subst occupied
      exact Or.inl ⟨Utf8.decode_eq_ok_nil_iff.1 decoded, rfl⟩
    · right
      cases parsed : Template.parse text with
      | ok template =>
        left
        refine ⟨template, ⟨text, decoded, parsed⟩, ?_⟩
        exact TemplateLoad.ofText_of_parse (Template.parse_unifyBreaks parsed) path
      | error error =>
        right
        refine ⟨⟨?_, ?_⟩, _, TemplateLoad.ofText_unifyBreaks_of_refused occupied parsed path⟩
        · rintro rfl
          rw [Utf8.decode_eq_ok_nil_iff.2 rfl] at decoded
          exact occupied (Except.ok.inj decoded).symm
        · rintro template ⟨source, decodedToo, parsedToo⟩
          rw [decoded] at decodedToo
          cases decodedToo
          rw [parsed] at parsedToo
          cases parsedToo

/-- An empty cache remembers nothing, so the file is read. -/
theorem map_load_empty
    {store : Store}
    (holds : store.Holds path content) :
    (load .empty store path).map (·.1.load) = read path content := by
  rcases holds with ⟨-, location, file, opened, rfl⟩
  have first : empty.get? location file.version = none := rfl
  cases reads : read path file.content with
  | error error => simp [load, opened, first, reads, Except.mapError, Except.map, bind, Except.bind]
  | ok load => simp [TemplateCache.load, opened, first, reads, Except.mapError, Except.map, bind,
      Except.bind]

end TemplateCache

namespace TemplateFiles

/-! ## The outcomes -/

variable {store : Store} {paths : List Path} {suffix : String} {path : Path}

/-- The candidates whose names end in a suffix. -/
def fitting (paths : List Path) (suffix : String) : List Path :=
  paths.filter fun path => Path.endsWith path.name suffix

/-- What a lookup without remembered loads ends in. -/
def outcome (store : Store) (paths : List Path) (suffix : String) :
    Except LoadError TemplateLoad :=
  (load .empty store paths suffix).map (·.1.load)

theorem outcome_of_none
    (nothing : fitting paths suffix = []) :
    outcome store paths suffix = .ok (.missing suffix) := by
  rw [fitting] at nothing
  simp [outcome, load, select, nothing, Except.map]

theorem outcome_of_several
    (several : 2 ≤ (fitting paths suffix).length) :
    outcome store paths suffix = .ok (.ambiguous suffix) := by
  rw [fitting] at several
  match whole : paths.filter fun path => Path.endsWith path.name suffix with
  | [] => simp [whole] at several
  | [_] => simp [whole] at several
  | _ :: _ :: _ => simp [outcome, load, select, whole, Except.map]

theorem outcome_of_single
    (single : fitting paths suffix = [path]) :
    outcome store paths suffix =
      match store.isFile path with
      | .error error => .error (.file error)
      | .ok false => .ok (.absent path)
      | .ok true => (TemplateCache.load .empty store path).map (·.1.load) := by
  rw [fitting] at single
  cases found : store.isFile path with
  | error error =>
    simp [outcome, load, select, single, found, Except.mapError, Except.map, bind, Except.bind]
  | ok isFile =>
    cases isFile <;>
      simp [outcome, load, select, single, found, Except.mapError, Except.map, bind, Except.bind]

theorem outcome_of_holds
    {content : List UInt8}
    (single : fitting paths suffix = [path])
    (holds : store.Holds path content) :
    outcome store paths suffix = TemplateCache.read path content := by
  rw [outcome_of_single single, Store.isFile_eq_ok_true_iff_holds.2 ⟨content, holds⟩]
  exact TemplateCache.map_load_empty holds

theorem outcome_of_absent
    (single : fitting paths suffix = [path])
    (absent : store.isFile path = .ok false) :
    outcome store paths suffix = .ok (.absent path) := by
  rw [outcome_of_single single, absent]

/-- The path of a single candidate may be too long to ask what it leads to. -/
theorem outcome_of_error
    {error : FileError}
    (single : fitting paths suffix = [path])
    (failed : store.isFile path = .error error) :
    outcome store paths suffix = .error (.file error) := by
  rw [outcome_of_single single, failed]

/-! ## What the outcomes tell -/

/-- There are too many candidates, or the only one is no file, or what it holds is neither nothing
nor a template. -/
def Misconfigured (store : Store) (found : List Path) : Prop :=
  2 ≤ found.length ∨
    ∃ path, found = [path] ∧
      ((∀ content, ¬ store.Holds path content) ∨
        ∃ content, store.Holds path content ∧ content ≠ [] ∧
          ∀ template : Template, ¬ template.GivenBy content)

/-- What a load tells about the candidates that fit: a template and a diagnostic never come
together, and each kind of load has its own cause. -/
structure Explained (store : Store) (found : List Path) (load : TemplateLoad) : Prop where
  exclusive : load.template? = none ∨ load.diagnostic? = none
  missing : load.diagnostic?.map Diagnostic.rule = some .missingTemplate ↔ found = []
  misconfigured : load.diagnostic?.map Diagnostic.rule = some .misconfiguredTemplate ↔
    Misconfigured store found
  disabled : load.isDisabled = true ↔ ∃ path, found = [path] ∧ store.Holds path []
  template : ∀ template, load.template? = some template ↔
    ∃ (path : Path) (content : List UInt8) (source : Template), found = [path] ∧
      store.Holds path content ∧ source.GivenBy content ∧ template = source.unifyBreaks

theorem not_misconfigured_nil (store : Store) : ¬ Misconfigured store [] := by
  rintro (several | ⟨path, single, -⟩)
  · simp at several
  · cases single

theorem Misconfigured.of_holds
    {content : List UInt8}
    (misconfigured : Misconfigured store [path])
    (holds : store.Holds path content) :
    content ≠ [] ∧ ∀ template : Template, ¬ template.GivenBy content := by
  rcases misconfigured with several | ⟨_, ⟨⟩, absent | ⟨other, holdsToo, refused⟩⟩
  · simp at several
  · exact absurd holds (absent content)
  · rwa [holds.unique holdsToo]

@[simp]
theorem rule_create
    (rule : Rule)
    (start length : Int)
    (argument : Option String)
    (properties : List (String × String)) :
    (Diagnostic.create rule start length argument properties).rule = rule := rfl

attribute [local simp]
  TemplateLoad.template? TemplateLoad.diagnostic? TemplateLoad.isDisabled TemplateLoad.missing
  TemplateLoad.ofDiagnostic Diagnostic.saying

theorem explained_missing (store : Store) (suffix : String) :
    Explained store [] (.missing suffix) where
  exclusive := Or.inl rfl
  missing := iff_of_true rfl rfl
  misconfigured := iff_of_false (by simp) (not_misconfigured_nil store)
  disabled := iff_of_false (by simp) (by simp)
  template := fun _ => iff_of_false (by simp) (by simp)

/-- Every way to be misconfigured is reported under the same rule. -/
theorem explained_misconfigured
    {found : List Path}
    (misconfigured : Misconfigured store found)
    (message : String)
    (origin : Option Path) :
    Explained store found ⟨.problem (.saying .misconfiguredTemplate 0 0 message), origin⟩ where
  exclusive := Or.inl rfl
  missing := by
    refine iff_of_false (by simp) ?_
    rintro rfl
    exact not_misconfigured_nil store misconfigured
  misconfigured := iff_of_true rfl misconfigured
  disabled := by
    refine iff_of_false (by simp) ?_
    rintro ⟨path, rfl, holds⟩
    exact (misconfigured.of_holds holds).1 rfl
  template := by
    intro template
    refine iff_of_false (by simp) ?_
    rintro ⟨path, content, source, rfl, holds, given, -⟩
    exact (misconfigured.of_holds holds).2 source given

theorem explained_disabled (holds : store.Holds path []) :
    Explained store [path] ⟨.disabled, some path⟩ where
  exclusive := Or.inl rfl
  missing := iff_of_false (by simp) (by simp)
  misconfigured :=
    iff_of_false (by simp) fun misconfigured => (misconfigured.of_holds holds).1 rfl
  disabled := iff_of_true rfl ⟨path, rfl, holds⟩
  template := by
    intro template
    refine iff_of_false (by simp) ?_
    rintro ⟨_, content, source, ⟨⟩, holdsToo, given, -⟩
    rw [← holds.unique holdsToo] at given
    exact Template.not_givenBy_nil source given

theorem explained_template
    {content : List UInt8} {source : Template}
    (holds : store.Holds path content)
    (given : source.GivenBy content) :
    Explained store [path] ⟨.template source.unifyBreaks, some path⟩ where
  exclusive := Or.inr rfl
  missing := iff_of_false (by simp) (by simp)
  misconfigured := by
    refine iff_of_false (by simp) ?_
    intro misconfigured
    exact (misconfigured.of_holds holds).2 source given
  disabled := by
    refine iff_of_false (by simp) ?_
    rintro ⟨_, ⟨⟩, holdsToo⟩
    rw [holds.unique holdsToo] at given
    exact Template.not_givenBy_nil source given
  template := by
    intro template
    simp only [TemplateLoad.template?, Option.some.injEq]
    constructor
    · rintro rfl
      exact ⟨path, content, source, rfl, holds, given, rfl⟩
    · rintro ⟨_, other, sourceToo, ⟨⟩, holdsToo, givenToo, rfl⟩
      rw [← holds.unique holdsToo] at givenToo
      rw [given.unique givenToo]

/-- A single candidate fails to be looked up. -/
def Fails (store : Store) (path : Path) (error : LoadError) : Prop :=
  path.hasNul = false ∧ store.locate path = .error .nameTooLong ∧
      error = .file ⟨.nameTooLong, path⟩ ∨
    ∃ content fault, store.Holds path content ∧ Utf8.decode content = .error fault ∧
      error = .encoding fault

theorem outcome_cases (store : Store) (paths : List Path) (suffix : String) :
    (∃ path error, fitting paths suffix = [path] ∧ Fails store path error ∧
        outcome store paths suffix = .error error) ∨
      ∃ load, outcome store paths suffix = .ok load ∧
        Explained store (fitting paths suffix) load := by
  match found : fitting paths suffix with
  | [] => exact Or.inr ⟨_, outcome_of_none found, explained_missing store suffix⟩
  | first :: second :: others =>
    have several : 2 ≤ (first :: second :: others).length := by simp
    have ambiguous : outcome store paths suffix = .ok (.ambiguous suffix) :=
      outcome_of_several (found ▸ several)
    exact Or.inr ⟨_, ambiguous, explained_misconfigured (Or.inl several) _ none⟩
  | [path] =>
    cases asked : store.isFile path with
    | error error =>
      rcases Store.isFile_eq_error_iff.1 asked with ⟨named, tooLong, rfl⟩
      exact Or.inl ⟨path, _, rfl, Or.inl ⟨named, tooLong, rfl⟩, outcome_of_error found asked⟩
    | ok isFile =>
      cases isFile with
      | false =>
        have absent : ∀ content, ¬ store.Holds path content := by
          intro content holds
          rw [Store.isFile_eq_ok_true_iff_holds.2 ⟨content, holds⟩] at asked
          cases asked
        have misconfigured : Misconfigured store [path] := Or.inr ⟨path, rfl, Or.inl absent⟩
        exact Or.inr
          ⟨_, outcome_of_absent found asked, explained_misconfigured misconfigured _ none⟩
      | true =>
        rcases Store.isFile_eq_ok_true_iff_holds.1 asked with ⟨content, holds⟩
        have whole := outcome_of_holds found holds
        cases reads : TemplateCache.read path content with
        | error error =>
          rcases TemplateCache.read_eq_error_iff.1 reads with ⟨fault, undecodable, rfl⟩
          exact Or.inl ⟨path, _, rfl, Or.inr ⟨content, fault, holds, undecodable, rfl⟩,
            whole.trans reads⟩
        | ok load =>
          refine Or.inr ⟨load, whole.trans reads, ?_⟩
          rcases TemplateCache.read_cases reads with
            ⟨rfl, rfl⟩ | ⟨source, given, rfl⟩ | ⟨refused, message, rfl⟩
          · exact explained_disabled holds
          · exact explained_template holds given
          · exact explained_misconfigured (Or.inr ⟨path, rfl, Or.inr ⟨content, holds, refused⟩⟩) _ _

theorem outcome_eq_error_iff {error : LoadError} :
    outcome store paths suffix = .error error ↔
      ∃ path, fitting paths suffix = [path] ∧ Fails store path error := by
  constructor
  · intro failed
    rcases outcome_cases store paths suffix with
      ⟨path, other, single, fails, same⟩ | ⟨load, ends, -⟩
    · rw [failed] at same
      cases same
      exact ⟨path, single, fails⟩
    · rw [failed] at ends
      cases ends
  · rintro ⟨path, single, ⟨named, tooLong, rfl⟩ | ⟨content, fault, holds, undecodable, rfl⟩⟩
    · exact outcome_of_error single (Store.isFile_eq_error_iff.2 ⟨named, tooLong, rfl⟩)
    · rw [outcome_of_holds single holds, TemplateCache.read_eq_error_iff]
      exact ⟨fault, undecodable, rfl⟩

/-- Looking up a template fails only where a single candidate has a path that is too long or holds
bytes that are no UTF-8.  Otherwise it tells what the candidates are like: none of them fits, they
are misconfigured, the only one is empty, or it is the template. -/
theorem load_outcome (store : Store) (paths : List Path) (suffix : String) :
    (∀ error, load .empty store paths suffix = .error error ↔
      ∃ path, fitting paths suffix = [path] ∧ Fails store path error) ∧
      ∀ loaded after, load .empty store paths suffix = .ok (loaded, after) →
        Explained store (fitting paths suffix) loaded.load := by
  constructor
  · intro error
    rw [← outcome_eq_error_iff, outcome, Item.map_eq_error_iff]
  · intro loaded after loads
    have ends : outcome store paths suffix = .ok loaded.load := by
      rw [outcome, loads]
      rfl
    rcases outcome_cases store paths suffix with ⟨_, _, -, -, failed⟩ | ⟨load, same, explained⟩
    · rw [ends] at failed
      cases failed
    · rw [ends] at same
      cases same
      exact explained

def undecodablePath : Path := ⟨.here, ["H.template"]⟩

/-- A store with a template file whose only byte begins no character. -/
def undecodableStore : Store := ⟨[(["H.template"], .file ⟨[0xFF], .set 0⟩)], [], 0⟩

/-- Bytes that are no UTF-8 do not become a diagnostic. -/
theorem load_fails_undiagnosed :
    (load .empty undecodableStore [undecodablePath] ".template").map (·.1) =
      .error (.encoding ⟨.invalidStart, 0, 1, 0xFF⟩) := by
  decide +kernel

end TemplateFiles

end Masthead
