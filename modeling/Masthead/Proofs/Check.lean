import Masthead.Check
import Masthead.Proofs.File.Frame
import Masthead.Proofs.Fix.Total
import Masthead.Proofs.Text.Utf8

/-!
# Files are checked independently

Checking a file reads that file and no other, and writes that file or none.  So when no two paths
open one file, each is reported on as if it were checked alone in the store as it was, in whichever
order they come, and the store ends up alike.  A file changes exactly when the report on it says
that it was fixed, and then it holds the encoded text of the fix.
-/

namespace Masthead

namespace CheckPlan

variable {plan : CheckPlan} {store : Store} {path : Path} {location : Location} {text : Text}
  {fix : Fix}

/-- A path can be read: it opens a file that may be read, and the file holds a text. -/
structure Reads (plan : CheckPlan) (store : Store) (path : Path) (location : Location)
    (text : Text) : Prop where
  named : path.hasNul = false
  readable : path ∉ plan.unreadable
  opened : ∃ file, store.openFile path = .ok (location, file) ∧
    Utf8.decode file.content = .ok text

/-- Checking a path rewrites its file: fixes are written back, the text in the file has a fix that
changes it, and the file may be written. -/
structure Rewrites (plan : CheckPlan) (store : Store) (path : Path) (location : Location)
    (text : Text) (fix : Fix) : Prop extends Reads plan store path location text where
  writes : plan.writesFixes = true
  writable : path ∉ plan.unwritable
  fixed : ∃ analysis, plan.load.check plan.current text = .ok (analysis, some fix)
  changes : fix.text ≠ text

theorem Reads.unique
    {place : Location} {other : Text}
    (reads : plan.Reads store path location text)
    (readsToo : plan.Reads store path place other) :
    location = place ∧ text = other := by
  rcases reads.opened with ⟨file, opened, decoded⟩
  rcases readsToo.opened with ⟨found, openedToo, decodedToo⟩
  rw [opened] at openedToo
  cases openedToo
  rw [decoded] at decodedToo
  cases decodedToo
  exact ⟨rfl, rfl⟩

theorem Rewrites.leadsTo
    (rewrites : plan.Rewrites store path location text fix) :
    store.LeadsTo path location := by
  rcases rewrites.opened with ⟨file, opened, -⟩
  exact ⟨file, opened⟩

/-- A path rewrites one file with one fix at most. -/
theorem Rewrites.unique
    {place : Location} {other : Text} {fixToo : Fix}
    (rewrites : plan.Rewrites store path location text fix)
    (rewritesToo : plan.Rewrites store path place other fixToo) :
    location = place ∧ fix = fixToo := by
  rcases rewrites.toReads.unique rewritesToo.toReads with ⟨rfl, rfl⟩
  rcases rewrites.fixed with ⟨analysis, checked⟩
  rcases rewritesToo.fixed with ⟨_, checkedToo⟩
  rw [checked] at checkedToo
  cases checkedToo
  exact ⟨rfl, rfl⟩

/-- What a path rewrites depends on what it opens, and on nothing else in the store. -/
theorem Rewrites.of_openFile_eq
    {other : Store}
    (rewrites : plan.Rewrites store path location text fix)
    (same : other.openFile path = store.openFile path) :
    plan.Rewrites other path location text fix := by
  rcases rewrites with ⟨⟨named, readable, file, opened, decoded⟩, writes, writable, fixed, changes⟩
  exact ⟨⟨named, readable, file, same.trans opened, decoded⟩, writes, writable, fixed, changes⟩

/-- A rewritten file does not hold the bytes that it held. -/
theorem Rewrites.encode_ne
    (rewrites : plan.Rewrites store path location text fix)
    {file : File}
    (stands : store.entry? location = some (.file file)) :
    Utf8.encode fix.text ≠ file.content := by
  rcases rewrites.opened with ⟨found, opened, decoded⟩
  have standsToo := (Store.openFile_eq_ok_iff.1 opened).2
  rw [stands] at standsToo
  cases standsToo
  intro same
  rw [← same, Utf8.decode_encode] at decoded
  exact rewrites.changes (Except.ok.inj decoded)

/-! ## One file -/

/-- A fix is written where it changes the text and the file can be written. -/
theorem settle_of_writes
    (writes : plan.writesFixes = true)
    (changes : fix.text ≠ text)
    (writable : path ∉ plan.unwritable)
    (analysis : Analysis) :
    plan.settle store path location text analysis (some fix) =
      (⟨path, some analysis.state, analysis.diagnostics, some fix, true, none⟩,
        store.write location (Utf8.encode fix.text)) := by
  simp [settle, writes, changes, writable]

/-- Otherwise nothing is written, and the report does not say that the file was fixed. -/
theorem settle_of_keeps
    (store : Store)
    (location : Location)
    {outcome : Option Fix}
    (keeps : ∀ fix, outcome = some fix → plan.writesFixes = true → fix.text ≠ text →
      path ∈ plan.unwritable)
    (analysis : Analysis) :
    (plan.settle store path location text analysis outcome).1.isFixed = false ∧
      (plan.settle store path location text analysis outcome).2 = store := by
  cases writes : plan.writesFixes with
  | false => simp [settle, writes]
  | true =>
    cases outcome with
    | none => simp [settle, writes]
    | some fix =>
      by_cases same : fix.text = text
      · simp [settle, writes, same]
      · simp [settle, writes, same, keeps fix rfl writes same]

/-- The report on a file does not depend on the rest of the store. -/
theorem settle_fst (plan : CheckPlan) (store other : Store) (path : Path) (location : Location)
    (text : Text) (analysis : Analysis) (outcome : Option Fix) :
    (plan.settle store path location text analysis outcome).1 =
      (plan.settle other path location text analysis outcome).1 := by
  cases writes : plan.writesFixes with
  | false => simp [settle, writes]
  | true =>
    cases outcome with
    | none => simp [settle, writes]
    | some fix =>
      simp only [settle, writes]
      split
      · rfl
      · split <;> rfl

/-- A path whose name is cut short has no report, a path that cannot be read is reported with the
reason, and any other is settled by what its text gives. -/
theorem checkFile_cases (plan : CheckPlan) (store : Store) (path : Path) :
    path.hasNul = true ∧ plan.checkFile store path = (.error .embeddedNul, store) ∨
      (path.hasNul = false ∧ (∀ location text, ¬ plan.Reads store path location text) ∧
        ∃ error, plan.checkFile store path = (.ok (.unread path error), store)) ∨
      ∃ location text analysis outcome,
        plan.Reads store path location text ∧
        plan.load.check plan.current text = .ok (analysis, outcome) ∧
        plan.checkFile store path =
          (.ok (plan.settle store path location text analysis outcome).1,
            (plan.settle store path location text analysis outcome).2) := by
  cases named : path.hasNul with
  | true => exact Or.inl ⟨rfl, by rw [checkFile, if_pos named]⟩
  | false =>
    right
    rw [checkFile, named, if_neg Bool.false_ne_true]
    cases opened : store.openFile path with
    | error error =>
      refine Or.inl ⟨rfl, ?_, _, rfl⟩
      rintro location text ⟨-, -, file, openedToo, -⟩
      rw [opened] at openedToo
      cases openedToo
    | ok found =>
      rcases found with ⟨location, file⟩
      by_cases refused : path ∈ plan.unreadable
      · refine Or.inl ⟨rfl, fun location text reads => reads.readable refused,
          FileError.message ⟨.accessDenied, path⟩, ?_⟩
        exact if_pos (List.contains_iff_mem.2 refused)
      · have readable : ¬ plan.unreadable.contains path = true :=
          fun listed => refused (List.contains_iff_mem.1 listed)
        dsimp only
        rw [if_neg readable]
        cases decoded : Utf8.decode file.content with
        | error error =>
          refine Or.inl ⟨rfl, ?_, _, rfl⟩
          rintro place text ⟨-, -, found, openedToo, decodedToo⟩
          rw [opened] at openedToo
          cases openedToo
          rw [decoded] at decodedToo
          cases decodedToo
        | ok text =>
          rcases plan.load.exists_check plan.current text with ⟨analysis, outcome, checked⟩
          refine Or.inr ⟨location, text, analysis, outcome,
            ⟨named, refused, file, opened, decoded⟩, checked, ?_⟩
          simp only [checked]

/-- A path whose name is not cut short is reported on. -/
theorem exists_report (plan : CheckPlan) (store : Store) (named : path.hasNul = false) :
    ∃ report, (plan.checkFile store path).1 = .ok report := by
  rcases plan.checkFile_cases store path with
    ⟨cutShort, -⟩ | ⟨-, -, error, checked⟩ | ⟨location, text, analysis, outcome, -, -, checked⟩
  · rw [named] at cutShort
    cases cutShort
  · exact ⟨_, by rw [checked]⟩
  · exact ⟨_, by rw [checked]⟩

/-- Checking a path rewrites its file with a fix and says so, or leaves the store as it is. -/
theorem rewrites_or_keeps (plan : CheckPlan) (store : Store) (path : Path) :
    (∃ location text fix report, plan.Rewrites store path location text fix ∧
        report.isFixed = true ∧
        plan.checkFile store path =
          (.ok report, store.write location (Utf8.encode fix.text))) ∨
      (∀ location text fix, ¬ plan.Rewrites store path location text fix) ∧
        (plan.checkFile store path).2 = store ∧
        ∀ report, (plan.checkFile store path).1 = .ok report → report.isFixed = false := by
  rcases plan.checkFile_cases store path with
    ⟨cutShort, checked⟩ | ⟨-, unread, error, checked⟩ |
      ⟨location, text, analysis, outcome, reads, meant, checked⟩
  · refine Or.inr ⟨?_, by rw [checked], ?_⟩
    · intro location text fix rewrites
      rw [rewrites.named] at cutShort
      cases cutShort
    · intro report absent
      rw [checked] at absent
      cases absent
  · refine Or.inr ⟨fun location text fix rewrites => unread _ _ rewrites.toReads, by rw [checked],
      ?_⟩
    intro report same
    rw [checked] at same
    cases same
    rfl
  · by_cases rewrites : ∃ fix, plan.Rewrites store path location text fix
    · rcases rewrites with ⟨fix, rewrites⟩
      rcases rewrites.fixed with ⟨_, meantToo⟩
      rw [meant] at meantToo
      cases meantToo
      rw [settle_of_writes rewrites.writes rewrites.changes rewrites.writable] at checked
      exact Or.inl ⟨location, text, fix, _, rewrites, rfl, checked⟩
    · have keeps : ∀ fix, outcome = some fix → plan.writesFixes = true → fix.text ≠ text →
          path ∈ plan.unwritable := by
        rintro fix rfl writes changes
        by_contra writable
        exact rewrites ⟨fix, reads, writes, writable, ⟨analysis, meant⟩, changes⟩
      rcases settle_of_keeps store location keeps analysis with ⟨unfixed, kept⟩
      refine Or.inr ⟨?_, by rw [checked, kept], ?_⟩
      · intro place other fix rewritesToo
        rcases reads.unique rewritesToo.toReads with ⟨rfl, rfl⟩
        exact rewrites ⟨fix, rewritesToo⟩
      · intro report same
        rw [checked] at same
        cases same
        exact unfixed

/-- The report on a path depends on what it opens, and on nothing else in the store. -/
theorem checkFile_fst_eq
    {other : Store}
    (same : other.openFile path = store.openFile path) :
    (plan.checkFile other path).1 = (plan.checkFile store path).1 := by
  rw [checkFile, checkFile, same]
  split
  · rfl
  · split
    · rfl
    · split
      · rfl
      · split
        · rfl
        · split
          · rfl
          · exact congrArg Except.ok (plan.settle_fst other store path _ _ _ _)

/-! ## One step of a check -/

variable {other : Path} {paths order rest : List Path}

theorem workingDirectory_checkFile (plan : CheckPlan) (store : Store) (path : Path) :
    (plan.checkFile store path).2.workingDirectory = store.workingDirectory := by
  rcases plan.rewrites_or_keeps store path with ⟨_, _, _, _, -, -, checked⟩ | ⟨-, kept, -⟩
  · rw [checked]
    rfl
  · rw [kept]

theorem entry?_checkFile_of_rewrites
    (rewrites : plan.Rewrites store path location text fix) :
    ∃ stamp, Store.entry? (plan.checkFile store path).2 location =
      some (.file ⟨Utf8.encode fix.text, stamp⟩) := by
  rcases plan.rewrites_or_keeps store path with
    ⟨place, _, _, _, rewritesToo, -, checked⟩ | ⟨keeps, -⟩
  · rcases rewrites.unique rewritesToo with ⟨rfl, rfl⟩
    rcases rewrites.opened with ⟨file, opened, -⟩
    rw [checked]
    exact ⟨_, Store.entry?_write_self (Store.openFile_eq_ok_iff.1 opened).2 _⟩
  · exact absurd rewrites (keeps _ _ _)

theorem entry?_checkFile_of_not_rewrites
    (keeps : ∀ text fix, ¬ plan.Rewrites store path location text fix) :
    Store.entry? (plan.checkFile store path).2 location = store.entry? location := by
  rcases plan.rewrites_or_keeps store path with
    ⟨place, _, _, _, rewrites, -, checked⟩ | ⟨-, kept, -⟩
  · rw [checked]
    apply Store.entry?_write_of_ne
    rintro rfl
    exact keeps _ _ rewrites
  · rw [kept]

/-- A path opens the same after another has been checked, unless both open one file. -/
theorem openFile_checkFile
    (apart : store.Apart path other) :
    (plan.checkFile store path).2.openFile other = store.openFile other := by
  rcases plan.rewrites_or_keeps store path with
    ⟨location, _, _, _, rewrites, -, checked⟩ | ⟨-, kept, -⟩
  · rcases rewrites.opened with ⟨file, opened, -⟩
    rw [checked]
    exact Store.openFile_write_of_not_leadsTo (Store.openFile_eq_ok_iff.1 opened).2
      (apart location rewrites.leadsTo) _
  · rw [kept]

/-- After the first of some paths has been checked, the others open what they opened before and are
still apart. -/
theorem apart_checkFile
    (plan : CheckPlan)
    (apart : (path :: rest).Pairwise store.Apart) :
    (∀ other ∈ rest, (plan.checkFile store path).2.openFile other = store.openFile other) ∧
      rest.Pairwise (plan.checkFile store path).2.Apart := by
  rcases List.pairwise_cons.1 apart with ⟨first, others⟩
  have same : ∀ other ∈ rest,
      (plan.checkFile store path).2.openFile other = store.openFile other :=
    fun other member => openFile_checkFile (first other member)
  refine ⟨same, others.imp_of_mem ?_⟩
  intro one two member memberToo apartTwo location leads leadsToo
  rw [Store.LeadsTo, same _ member] at leads
  rw [Store.LeadsTo, same _ memberToo] at leadsToo
  exact apartTwo location leads leadsToo

/-! ## A whole check -/

/-- Each path is reported on as if it were checked alone in the store as it was. -/
theorem checkEach_fst
    (plan : CheckPlan)
    (apart : order.Pairwise store.Apart) :
    (plan.checkEach store order).1 = order.map fun path => (plan.checkFile store path).1 := by
  induction order generalizing store with
  | nil => rfl
  | cons path rest ih =>
    rcases apart_checkFile plan apart with ⟨same, apartRest⟩
    show (plan.checkFile store path).1 :: (plan.checkEach (plan.checkFile store path).2 rest).1 = _
    rw [ih apartRest, List.map_cons]
    congr 1
    exact List.map_congr_left fun other member => checkFile_fst_eq (same other member)

theorem workingDirectory_checkEach (plan : CheckPlan) (store : Store) (order : List Path) :
    (plan.checkEach store order).2.workingDirectory = store.workingDirectory := by
  induction order generalizing store with
  | nil => rfl
  | cons path rest ih =>
    show (plan.checkEach (plan.checkFile store path).2 rest).2.workingDirectory = _
    rw [ih, workingDirectory_checkFile]

/-- What no path rewrites stays as it was. -/
theorem entry?_checkEach_of_not_rewrites
    (apart : order.Pairwise store.Apart)
    (keeps : ∀ path ∈ order, ∀ text fix, ¬ plan.Rewrites store path location text fix) :
    Store.entry? (plan.checkEach store order).2 location = store.entry? location := by
  induction order generalizing store with
  | nil => rfl
  | cons path rest ih =>
    rcases apart_checkFile plan apart with ⟨same, apartRest⟩
    show Store.entry? (plan.checkEach (plan.checkFile store path).2 rest).2 location = _
    rw [ih apartRest, entry?_checkFile_of_not_rewrites (keeps path List.mem_cons_self)]
    intro other member text fix rewrites
    exact keeps other (List.mem_cons_of_mem path member) text fix
      (rewrites.of_openFile_eq (same other member).symm)

/-- What a path rewrites holds its fix in the end, whichever paths come before and after it. -/
theorem entry?_checkEach_of_rewrites
    (apart : order.Pairwise store.Apart)
    (member : path ∈ order)
    (rewrites : plan.Rewrites store path location text fix) :
    ∃ stamp, Store.entry? (plan.checkEach store order).2 location =
      some (.file ⟨Utf8.encode fix.text, stamp⟩) := by
  induction order generalizing store with
  | nil => cases member
  | cons first rest ih =>
    rcases apart_checkFile plan apart with ⟨same, apartRest⟩
    show ∃ stamp, Store.entry? (plan.checkEach (plan.checkFile store first).2 rest).2 location = _
    rcases List.mem_cons.1 member with rfl | later
    · -- No later path opens the file, so it stays as it has been rewritten.
      rcases entry?_checkFile_of_rewrites rewrites with ⟨stamp, written⟩
      refine ⟨stamp, (entry?_checkEach_of_not_rewrites apartRest ?_).trans written⟩
      intro other memberRest text fix rewritesToo
      exact (List.pairwise_cons.1 apart).1 other memberRest location rewrites.leadsTo
        (rewritesToo.of_openFile_eq (same other memberRest).symm).leadsTo
    · exact ih apartRest later (rewrites.of_openFile_eq (same path later))

/-- The reports on paths whose names are not cut short are gathered in the order of the paths. -/
theorem exists_gather
    (named : ∀ path ∈ paths, path.hasNul = false)
    (plan : CheckPlan) (store : Store) :
    ∃ reports, gather (paths.map fun path => (plan.checkFile store path).1) = .ok reports ∧
      List.Forall₂ (fun path report => (plan.checkFile store path).1 = .ok report)
        paths reports := by
  induction paths with
  | nil => exact ⟨[], rfl, .nil⟩
  | cons path rest ih =>
    rcases ih fun other member => named other (List.mem_cons_of_mem path member) with
      ⟨reports, gathered, each⟩
    rcases plan.exists_report store (named path List.mem_cons_self) with ⟨report, first⟩
    refine ⟨report :: reports, ?_, .cons first each⟩
    rw [List.map_cons, gather, first, gathered]
    rfl

theorem isFixed_iff
    {report : Report}
    (reported : (plan.checkFile store path).1 = .ok report) :
    report.isFixed = true ↔ ∃ location text fix, plan.Rewrites store path location text fix := by
  rcases plan.rewrites_or_keeps store path with
    ⟨location, text, fix, other, rewrites, isFixed, checked⟩ | ⟨keeps, -, unfixed⟩
  · rw [checked] at reported
    cases reported
    exact ⟨fun _ => ⟨location, text, fix, rewrites⟩, fun _ => isFixed⟩
  · rw [unfixed report reported]
    constructor
    · intro impossible
      cases impossible
    · rintro ⟨location, text, fix, rewrites⟩
      exact absurd rewrites (keeps _ _ _)

/-- The order in which paths are checked makes no difference to what the store holds. -/
theorem alike_checkEach
    (plan : CheckPlan)
    (apart : paths.Pairwise store.Apart)
    (reordered : order.Perm paths) :
    (plan.checkEach store order).2.Alike (plan.checkEach store paths).2 := by
  have apartToo : order.Pairwise store.Apart :=
    (reordered.pairwise_iff Store.Apart.symm).2 apart
  refine ⟨?_, fun location => ?_⟩
  · rw [workingDirectory_checkEach, workingDirectory_checkEach]
  · by_cases rewritten : ∃ path ∈ paths, ∃ text fix, plan.Rewrites store path location text fix
    · rcases rewritten with ⟨path, member, text, fix, rewrites⟩
      rcases entry?_checkEach_of_rewrites apart member rewrites with ⟨stamp, written⟩
      rcases entry?_checkEach_of_rewrites apartToo (reordered.mem_iff.2 member) rewrites with
        ⟨stampToo, writtenToo⟩
      rw [written, writtenToo]
      rfl
    · rw [entry?_checkEach_of_not_rewrites apart, entry?_checkEach_of_not_rewrites apartToo]
      · intro path member text fix rewrites
        exact rewritten ⟨path, reordered.mem_iff.1 member, text, fix, rewrites⟩
      · intro path member text fix rewrites
        exact rewritten ⟨path, member, text, fix, rewrites⟩

/-- A check makes no file and removes none. -/
theorem sameTree_checkEach
    (plan : CheckPlan)
    (apart : paths.Pairwise store.Apart) :
    (plan.checkEach store paths).2.SameTree store := by
  refine ⟨workingDirectory_checkEach plan store paths, fun location => ?_⟩
  by_cases rewritten : ∃ path ∈ paths, ∃ text fix, plan.Rewrites store path location text fix
  · rcases rewritten with ⟨path, member, text, fix, rewrites⟩
    rcases entry?_checkEach_of_rewrites apart member rewrites with ⟨stamp, written⟩
    rcases rewrites.opened with ⟨file, opened, -⟩
    rw [written, (Store.openFile_eq_ok_iff.1 opened).2]
    rfl
  · rw [entry?_checkEach_of_not_rewrites apart]
    intro path member text fix rewrites
    exact rewritten ⟨path, member, text, fix, rewrites⟩

theorem content?_checkEach_of_rewrites
    (apart : paths.Pairwise store.Apart)
    (member : path ∈ paths)
    (rewrites : plan.Rewrites store path location text fix) :
    (plan.checkEach store paths).2.content? location = some (Utf8.encode fix.text) ∧
      store.content? location ≠ some (Utf8.encode fix.text) := by
  rcases entry?_checkEach_of_rewrites apart member rewrites with ⟨stamp, written⟩
  rcases rewrites.opened with ⟨file, opened, -⟩
  have stands := (Store.openFile_eq_ok_iff.1 opened).2
  rw [Store.content?, Store.content?, written, stands]
  refine ⟨rfl, fun same => ?_⟩
  exact rewrites.encode_ne stands (Option.some.inj same).symm

/-- Files are checked independently of one another, if no two paths open one file.  The reports come
in the order of the paths, each as if its path were checked alone in the store as it was, and they
are all there unless a name is cut short.  Any other order gives the same reports and a store that
is alike.  No file is made or removed.  A file is rewritten exactly where its path says so; then it
holds the encoded text of its fix, which differs from what it held, and everything else is as it
was. -/
theorem checkPaths_independent
    {workers : Int}
    (plan : CheckPlan)
    (apart : paths.Pairwise store.Apart)
    (staffed : 0 < workers) :
    ∃ after,
      plan.checkPaths workers store paths =
        (gather (paths.map fun path => (plan.checkFile store path).1), after) ∧
      ((∀ path ∈ paths, path.hasNul = false) →
        ∃ reports, gather (paths.map fun path => (plan.checkFile store path).1) = .ok reports ∧
          List.Forall₂ (fun path report => (plan.checkFile store path).1 = .ok report)
            paths reports) ∧
      (∀ order, order.Perm paths →
        (plan.checkEach store order).1 = order.map (fun path => (plan.checkFile store path).1) ∧
          (plan.checkEach store order).2.Alike after) ∧
      after.SameTree store ∧
      (∀ path ∈ paths, ∀ report, (plan.checkFile store path).1 = .ok report →
        (report.isFixed = true ↔
          ∃ location file, store.openFile path = .ok (location, file) ∧
            after.content? location ≠ some file.content)) ∧
      (∀ path ∈ paths, ∀ location text fix, plan.Rewrites store path location text fix →
        after.content? location = some (Utf8.encode fix.text) ∧
          store.content? location ≠ some (Utf8.encode fix.text)) ∧
      ∀ location, (∀ path ∈ paths, ∀ text fix, ¬ plan.Rewrites store path location text fix) →
        after.entry? location = store.entry? location := by
  have enough : ¬ (!paths.isEmpty && decide (workers < 1)) = true := by
    simp only [Bool.and_eq_true, decide_eq_true_eq, not_and]
    omega
  refine ⟨(plan.checkEach store paths).2, ?_, fun named => exists_gather named plan store, ?_,
    sameTree_checkEach plan apart, ?_, ?_, fun _ => entry?_checkEach_of_not_rewrites apart⟩
  · rw [checkPaths, if_neg enough, ← checkEach_fst plan apart]
  · intro order reordered
    exact ⟨checkEach_fst plan ((reordered.pairwise_iff Store.Apart.symm).2 apart),
      alike_checkEach plan apart reordered⟩
  · intro path member report reported
    rw [isFixed_iff reported]
    constructor
    · rintro ⟨location, text, fix, rewrites⟩
      rcases rewrites.opened with ⟨file, opened, -⟩
      have stands := (Store.openFile_eq_ok_iff.1 opened).2
      refine ⟨location, file, opened, ?_⟩
      rw [(content?_checkEach_of_rewrites apart member rewrites).1]
      exact fun same => rewrites.encode_ne stands (Option.some.inj same)
    · rintro ⟨location, file, opened, changed⟩
      have stands := (Store.openFile_eq_ok_iff.1 opened).2
      by_contra keeps
      apply changed
      rw [Store.content?, entry?_checkEach_of_not_rewrites apart, stands]
      · rfl
      · intro other memberToo text fix rewrites
        obtain rfl := Store.eq_of_leadsTo apart memberToo member rewrites.leadsTo ⟨file, opened⟩
        exact keeps ⟨location, text, fix, rewrites⟩
  · intro path member location text fix rewrites
    exact content?_checkEach_of_rewrites apart member rewrites

/-- A store with a file that lacks its header, a file that has it, and a file that is no text. -/
def sampleStore : Store where
  entries := [(["a"], .file ⟨Utf8.encode ['x'], .set 0⟩),
    (["b"], .file ⟨Utf8.encode "# 2024 A\n".toList, .set 0⟩), (["c"], .file ⟨[0xFF], .set 0⟩)]
  workingDirectory := []
  writes := 0

/-- A check in which the fixes for the sample template are written back. -/
def samplePlan : CheckPlan where
  load := ⟨.template Template.sample, none⟩
  current := Template.sampleYear
  writesFixes := true
  unreadable := []
  unwritable := []

/-- The paths of the sample store. -/
def samplePaths : List Path := [⟨.here, ["a"]⟩, ⟨.here, ["b"]⟩, ⟨.here, ["c"]⟩]

theorem checkPaths_independent_sample :
    ∃ reports after,
      samplePlan.checkPaths 1 sampleStore samplePaths = (.ok reports, after) ∧
      reports.length = 3 ∧
      after.content? ["a"] = some (Utf8.encode "# 2024 A\nx".toList) ∧
      (samplePlan.checkEach sampleStore samplePaths.reverse).2.Alike after := by
  have apart : samplePaths.Pairwise sampleStore.Apart := by
    decide +kernel
  have rewrites : samplePlan.Rewrites sampleStore ⟨.here, ["a"]⟩ ["a"] ['x']
      ⟨"Insert header", "# 2024 A\nx".toList⟩ := by
    refine ⟨⟨by decide, by decide, ⟨Utf8.encode ['x'], .set 0⟩, by decide +kernel,
      Utf8.decode_encode ['x']⟩, rfl, by decide, ⟨.ofAbsence ['x'], by decide +kernel⟩,
      by decide +kernel⟩
  rcases checkPaths_independent samplePlan apart Int.one_pos with
    ⟨after, checked, gathered, orders, -, -, rewritten, -⟩
  rcases gathered (by decide) with ⟨reports, all, each⟩
  refine ⟨reports, after, by rw [checked, all], each.length_eq.symm, ?_, ?_⟩
  · exact (rewritten _ (by simp [samplePaths]) _ _ _ rewrites).1
  · exact (orders _ (List.reverse_perm samplePaths)).2

end CheckPlan

end Masthead
