import ModuleGlue.Proofs.Command.Batch
import ModuleGlue.Proofs.Expansion.Indifference
import ModuleGlue.Proofs.Settings.Precedence

/-!
Contract: looking for errors and converting agree.

Both commands expand the same files. What an expansion finds does not depend on what it writes, so
they find the same in each file, whatever a conversion is told about the code that it writes. They
differ in what they say beside this: a conversion names paths in messages whose tags are not
escaped.

Main statement: `convert_succeeds_iff_check`.

Owns: the runs of the command that looks for errors, and the comparison of the two.

Does not own: what is found in a file.
-/

namespace ModuleGlue.Command

open ModuleGlue.Console (Level Legible unopened_append unopened_number)
open ModuleGlue.Expansion (run run_report_eq)
open ModuleGlue.Files (Path Place Tree)
open ModuleGlue.Files.Tree (directoryPlace?_append directoryPlace?_of_locate)
open ModuleGlue.Settings (directoryPlace?)
open ModuleGlue.Text (isIdentifier Utf8.encode)

/-! ## Settings -/

/-- Loaded settings are valid ones, of the values given by the caller and those of the file. -/
theorem exists_validate_of_load {tree : Tree} {path : Path} {overrides : Settings.Table}
    {settings : Settings} (loaded : Settings.load tree path overrides = .ok settings) :
    ∃ given entries, Settings.findGiven tree path = .ok given ∧ given.value = .table entries ∧
      (Settings.Table.override overrides entries).validate = .ok settings := by
  unfold Settings.load at loaded
  obtain ⟨given, found, loaded⟩ := bind_eq_ok_iff.1 loaded
  split at loaded
  · rename_i entries table
    refine ⟨given, entries, found, table, ?_⟩
    cases valid : (Settings.Table.override overrides entries).validate with
    | ok other =>
        rw [valid] at loaded
        rw [Except.ok.inj loaded]
    | error faults =>
        rw [valid] at loaded
        cases loaded
  · cases loaded

/-- Whether the first error ends an expansion is read from the value under its key. -/
theorem failFast_of_validate {values : Settings.Table} {settings : Settings}
    (valid : values.validate = .ok settings) :
    values.setting .failFast Settings.default.failFast Settings.Value.readTruth =
      .ok settings.failFast := by
  unfold Settings.Table.validate at valid
  dsimp only at valid
  split at valid
  · rename_i failFast _ _ _ read _
    rw [read, ← Except.ok.inj valid]
  · cases valid

/-- Settings for the same directory agree on when to end if the callers do. -/
theorem failFast_eq_of_load {tree : Tree} {path : Path} {overrides overrides' : Settings.Table}
    {settings settings' : Settings}
    (same : overrides.get? .failFast = overrides'.get? .failFast)
    (loaded : Settings.load tree path overrides = .ok settings)
    (loaded' : Settings.load tree path overrides' = .ok settings') :
    settings.failFast = settings'.failFast := by
  obtain ⟨given, entries, found, table, valid⟩ := exists_validate_of_load loaded
  obtain ⟨given', entries', found', table', valid'⟩ := exists_validate_of_load loaded'
  obtain rfl := Except.ok.inj (found.symm.trans found')
  obtain rfl := Settings.Value.table.inj (table.symm.trans table')
  have values : (Settings.Table.override overrides entries).get? .failFast =
      (Settings.Table.override overrides' entries).get? .failFast := by
    unfold Settings.Table.get? at same ⊢
    rw [Settings.Table.lookup_override, Settings.Table.lookup_override]
    unfold Settings.Table.given?
    rw [same]
  have read := failFast_of_validate valid
  have read' := failFast_of_validate valid'
  unfold Settings.Table.setting at read read'
  rw [values] at read
  exact Except.ok.inj (read.symm.trans read')

/-! ## Files -/

/-- The files that a command over a path is about. -/
def filesAt (tree : Tree) (input : Path) : List Path :=
  if tree.isFile input then [input] else (collectSources tree input).map input.append

def Find (settings : Settings) (tree : Tree) : List Path → List Result → Prop :=
  List.Forall₂ fun path result => fileResult settings tree path = .ok result

structure SameFindings (result other : Result) : Prop where
  succeeded : result.succeeded = other.succeeded
  errors : result.errors = other.errors
  warnings : result.warnings = other.warnings

section
variable {settings settings' : Settings} {tree : Tree} {path input output : Path}
variable {shown : List Output}

theorem sameFindings_of_fileResult (isRuntime : isIdentifier settings.runtimeAlias = true)
    (isRuntime' : isIdentifier settings'.runtimeAlias = true)
    (agree : settings.failFast = settings'.failFast) {result other : Result}
    (found : fileResult settings tree path = .ok result)
    (found' : fileResult settings' tree path = .ok other) : SameFindings result other := by
  cases read : readSource tree path with
  | error fault =>
      rw [fileResult_of_unread _ read] at found found'
      rw [← Except.ok.inj found, ← Except.ok.inj found']
      exact ⟨rfl, rfl, rfl⟩
  | ok code =>
      rw [fileResult_of_read _ read] at found found'
      cases returns : run settings code with
      | error error =>
          rw [returns] at found
          cases found
      | ok outcome =>
          cases returns' : run settings' code with
          | error error =>
              rw [returns'] at found'
              cases found'
          | ok outcome' =>
              rw [returns] at found
              rw [returns'] at found'
              have report := run_report_eq isRuntime isRuntime' agree returns returns'
              rw [← Except.ok.inj found, ← Except.ok.inj found']
              exact
                { succeeded := by
                    rw [Result.succeeded, Result.succeeded, Expansion.Outcome.succeeded_eq,
                      Expansion.Outcome.succeeded_eq, report]
                  errors := congrArg Expansion.Report.errors report
                  warnings := congrArg Expansion.Report.warnings report }

theorem all_succeeded_eq {results others : List Result}
    (same : List.Forall₂ SameFindings results others) :
    results.all Result.succeeded = others.all Result.succeeded := by
  induction same with
  | nil => rfl
  | cons here others inductionHypothesis =>
      rw [List.all_cons, List.all_cons, here.succeeded, inductionHypothesis]

/-! ## Looking for errors -/

/-- The messages on some files with what they came to, of the command that looks for errors. -/
def checkMessages (paths : List Path) (results : List Result) : List (Level × String) :=
  (paths.zip results).flatMap fun (path, result) =>
    result.diagnostics path.render ++ result.refusals path

theorem ends_checkFiles (settings : Settings) (paths : List Path) (session : Session) :
    Ends (checkFiles settings paths) session
      (fun results later => Find settings session.tree paths results ∧
        Tells (checkMessages paths results) session later)
      fun abort => ∃ path ∈ paths,
        FileFails settings session.tree path (Result.refusals path) abort := by
  induction paths generalizing session with
  | nil => exact ⟨.nil, rfl, .nil _⟩
  | cons path rest inductionHypothesis =>
      unfold checkFiles
      refine Ends.bind ((ends_checkFile settings path session).mono_failed
        fun _ fails => ⟨path, List.mem_cons_self, fails⟩) ?_
      rintro result middle ⟨found, tells⟩
      refine Ends.bind ((inductionHypothesis middle).mono_failed ?_) ?_
      · rintro abort ⟨other, member, fails⟩
        exact ⟨other, List.mem_cons_of_mem path member, tells.tree ▸ fails⟩
      · rintro results later ⟨others, tells'⟩
        exact ⟨.cons found (tells.tree ▸ others), tells.append tells'⟩

theorem legible_checked (files modules : Nat) :
    Legible (.success, s!"Checked {files} files, {modules} modules.") := by
  refine Console.legible_of_unopened .success ?_
  exact unopened_append (unopened_append (unopened_append (unopened_append (by decide)
    (unopened_number files)) (by decide)) (unopened_number modules)) (by decide)

theorem legible_problems (failed files : Nat) :
    Legible (.error, s!"{failed} of {files} files have annotation problems.") := by
  refine Console.legible_of_unopened .error ?_
  exact unopened_append (unopened_append (unopened_append (unopened_number failed)
    (by decide)) (unopened_number files)) (by decide)

/-- Without `strict`, the files with problems are those that were not expanded. -/
theorem length_problems_eq_zero_iff (results : List Result) :
    (results.filter (·.hasProblems false)).length = 0 ↔ results.all Result.succeeded = true := by
  rw [List.length_eq_zero_iff, List.filter_eq_nil_iff, List.all_eq_true]
  refine forall₂_congr fun result _ => ?_
  unfold Result.hasProblems
  simp

/-- What is known of the end of a search for errors where something is. -/
structure CheckDone (settings : Settings) (tree : Tree) (input : Path) (shown : List Output)
    (done : Bool) (later : Session) : Prop where
  results : ∃ results, Find settings tree (filesAt tree input) results ∧
    done = results.all Result.succeeded ∧
    ∃ reported, Told (checkMessages (filesAt tree input) results) shown reported ∧
      reported <:+ later.shown

theorem ends_check {overrides : Settings.Table} (present : tree.contains input = true)
    (loaded : Settings.load tree (settingsDirectory tree input) overrides = .ok settings) :
    Ends (check input overrides false) ⟨tree, shown⟩ (CheckDone settings tree input shown)
      fun abort => ∃ path ∈ filesAt tree input,
        FileFails settings tree path (Result.refusals path) abort := by
  unfold check
  refine ends_currentTree ?_
  rw [present, Bool.not_true, if_neg Bool.false_ne_true]
  refine Ends.bind (ends_loadSettings loaded) ?_
  rintro found later ⟨rfl, rfl⟩
  refine ends_currentTree ?_
  refine Ends.bind (ends_checkFiles found (filesAt tree input) ⟨tree, shown⟩) ?_
  rintro results middle ⟨others, tells⟩
  dsimp only
  have all := length_problems_eq_zero_iff results
  split
  · rename_i none
    refine Ends.bind (ends_log_of_legible (legible_checked _ _)).of_never
      fun _ later told => ?_
    exact ⟨results, others, (all.1 none).symm, middle.shown, tells.told, told.told.suffix⟩
  · rename_i some
    refine Ends.bind (ends_log_of_legible (legible_problems _ _)).of_never
      fun _ later told => ?_
    refine ⟨results, others, ?_, middle.shown, tells.told, told.told.suffix⟩
    exact (Bool.eq_false_iff.2 fun succeeded => some (all.2 succeeded)).symm

/-! ## Converting -/

/-- The messages of a conversion over a path, but for the report on a directory. -/
def convertMessages (tree : Tree) (input output : Path) (results : List Result) :
    List (Level × String) :=
  if tree.isFile input then
    results.flatMap fun result => result.diagnostics input.name ++ result.remarks input output
  else
    batchHeading input (collectSources tree input) ::
      ((collectSources tree input).zip results).flatMap (batchMessages input output)

/-- Those among them that are not about the content of a file. -/
def convertRemarks (settings : Settings) (tree : Tree) (input output : Path) :
    List (Level × String) :=
  if tree.isFile input then remarksAt settings tree input output
  else batchRemarks settings tree input output

/-- What is known of the end of a conversion where something is. -/
structure ConvertDone (settings : Settings) (tree : Tree) (input output : Path)
    (shown : List Output) (done : Bool) (later : Session) : Prop where
  results : ∃ results, Find settings tree (filesAt tree input) results ∧
    done = results.all Result.succeeded ∧
    ∃ reported, Told (convertMessages tree input output results) shown reported ∧
      reported <:+ later.shown
  legible : ∀ message ∈ convertRemarks settings tree input output, Legible message

/-- Why a conversion can fail where something is. -/
inductive ConvertFails (settings : Settings) (tree : Tree) (input output : Path) :
    Abort → Prop where
  | files (fault : Files.Fault) : ConvertFails settings tree input output (.files fault)
  | source {path : Path} {error : Source.SourceError} (member : path ∈ filesAt tree input)
      (escapes : fileResult settings tree path = .error error) :
      ConvertFails settings tree input output (.source error)
  | markup {error : Console.MarkupError} {message : Level × String}
      (member : message ∈ convertRemarks settings tree input output)
      (illegible : ¬ Legible message) : ConvertFails settings tree input output (.markup error)

theorem remarksAt_of_fileResult {result : Result}
    (found : fileResult settings tree input = .ok result) :
    remarksAt settings tree input output = result.remarks input output := by
  unfold remarksAt
  rw [found]

/-- A file that ends a conversion, as a reason for the whole command. -/
theorem ConvertFails.of_fileFails {abort : Abort} {target : Path}
    (member : path ∈ filesAt tree input)
    (remarks : remarksAt settings tree path target ⊆ convertRemarks settings tree input output)
    (fails : FileFails settings tree path (Result.remarks path target) abort) :
    ConvertFails settings tree input output abort := by
  cases fails with
  | source escapes => exact .source member escapes
  | markup found inside illegible =>
      refine .markup (remarks ?_) illegible
      rw [remarksAt_of_fileResult found]
      exact inside

/-- The results of a directory, as those of its files. -/
theorem ComeTo.find {sources : List Place} {results : List (Place × Result)}
    (found : ComeTo settings tree input sources results) :
    Find settings tree (sources.map input.append) (results.map Prod.snd) ∧
      sources.zip (results.map Prod.snd) = results := by
  induction found with
  | nil => exact ⟨.nil, rfl⟩
  | @cons source found sources results here others inductionHypothesis =>
      obtain ⟨rfl, here⟩ := here
      exact ⟨.cons here inductionHypothesis.1, congrArg (found :: ·) inductionHypothesis.2⟩

theorem ends_convert_of_file {overrides : Settings.Table} (isFile : tree.isFile input = true)
    (present : tree.contains input = true)
    (loaded : Settings.load tree (settingsDirectory tree input) overrides = .ok settings) :
    Ends (convert input (some output) overrides) ⟨tree, shown⟩
      (ConvertDone settings tree input output shown) (ConvertFails settings tree input output) := by
  have files : filesAt tree input = [input] := if_pos isFile
  have remarks : convertRemarks settings tree input output =
      remarksAt settings tree input output := if_pos isFile
  unfold convert
  refine ends_currentTree ?_
  rw [present, Bool.not_true, if_neg Bool.false_ne_true]
  refine Ends.bind (ends_loadSettings loaded) ?_
  rintro found later ⟨rfl, rfl⟩
  refine ends_currentTree ?_
  rw [if_pos isFile]
  refine Ends.bind ((ends_convertFile found input output ⟨tree, shown⟩).mono_failed ?_) ?_
  · rintro abort (⟨fault, rfl⟩ | fails)
    · exact .files fault
    · exact .of_fileFails (files ▸ List.mem_singleton_self input) (remarks ▸ List.Subset.refl _)
        fails
  · rintro result later ⟨came, told, -⟩
    refine ⟨⟨[result], files ▸ .cons came .nil, ?_, later.shown, ?_, List.suffix_refl _⟩, ?_⟩
    · rw [List.all_cons, List.all_nil, Bool.and_true]
    · rw [convertMessages, if_pos isFile, List.flatMap_singleton]
      exact told
    · rw [remarks, remarksAt_of_fileResult came]
      exact fun message member => told.legible message (List.mem_append_right _ member)

theorem ends_convert {overrides : Settings.Table} (sound : tree.Sound)
    (present : tree.contains input = true)
    (loaded : Settings.load tree (settingsDirectory tree input) overrides = .ok settings)
    (undisturbed : Undisturbed settings tree input output (collectSources tree input)) :
    Ends (convert input (some output) overrides) ⟨tree, shown⟩
      (ConvertDone settings tree input output shown) (ConvertFails settings tree input output) := by
  by_cases isFile : tree.isFile input = true
  · exact ends_convert_of_file isFile present loaded
  have isDirectory : tree.isDirectory input = true := by
    unfold Tree.contains at present
    unfold Tree.isFile at isFile
    unfold Tree.isDirectory
    cases stands : tree.find input with
    | error fault =>
        rw [stands] at present
        cases present
    | ok entry =>
        cases entry with
        | directory => rfl
        | file content =>
            rw [stands] at isFile
            exact absurd rfl isFile
  have files : filesAt tree input = (collectSources tree input).map input.append := if_neg isFile
  have remarks : convertRemarks settings tree input output =
      batchRemarks settings tree input output := if_neg isFile
  have loaded : Settings.load tree input overrides = .ok settings := by
    rwa [settingsDirectory, if_pos isDirectory] at loaded
  refine (ends_convert_of_directory isDirectory loaded
    (ends_convertDirectory sound undisturbed)).mono ?_ ?_
  · rintro done later ⟨⟨results, found, rfl, reported, told, suffix⟩, -⟩
    obtain ⟨find, zipped⟩ := found.find
    refine ⟨⟨results.map Prod.snd, files ▸ find, ?_, reported, ?_, suffix⟩, ?_⟩
    · rw [List.all_map]
      rfl
    · rw [convertMessages, if_neg isFile, zipped]
      exact told
    · rw [remarks]
      have legible := List.forall_mem_cons.1 told.legible
      exact List.forall_mem_cons.2 ⟨legible.1, (legible_batchMessages_iff found).1 legible.2⟩
  · intro abort fails
    cases fails with
    | files fault => exact .files fault
    | heading illegible =>
        exact .markup (remarks ▸ List.mem_cons_self) illegible
    | file member fails =>
        refine .of_fileFails (files ▸ List.mem_map_of_mem member) ?_ fails
        rw [remarks]
        exact fun message inside => List.mem_cons_of_mem _ (List.mem_flatMap.2 ⟨_, member, inside⟩)

/-! ## The comparison -/

def Beside (input output : Path) : Prop :=
  ∀ place target, directoryPlace? input = some place → directoryPlace? output = some target →
    ¬ place <+: target ∧ ¬ target <+: place

/-- An output beside the input disturbs no file. -/
theorem undisturbed_of_beside (sound : tree.Sound) (beside : Beside input output) :
    Undisturbed settings tree input output (collectSources tree input) := by
  refine List.pairwise_of_forall_mem_list fun earlier member later member' _ same => ?_
  have listed := listed_of_mem sound member
  have listed' := listed_of_mem sound member'
  obtain ⟨place, entry, located, -⟩ := listed'.stands
  rw [directoryPlace?_of_locate located, directoryPlace?_append output listed.downwards] at same
  have leads := directoryPlace?_of_locate located
  rw [directoryPlace?_append input listed'.downwards] at leads
  obtain ⟨target, found, rfl⟩ := Option.map_eq_some_iff.1 same
  obtain ⟨start, found', joined⟩ := Option.map_eq_some_iff.1 leads
  obtain ⟨notBelow, notAbove⟩ := beside start target found' found
  rcases List.append_eq_append_iff.1 joined with ⟨more, rfl, -⟩ | ⟨more, rfl, -⟩
  · exact notBelow (List.prefix_append _ _)
  · exact notAbove (List.prefix_append _ _)

/-- Where nothing is, neither command succeeds. -/
theorem ends_check_of_missing {overrides : Settings.Table} (missing : tree.contains input = false) :
    Ends (check input overrides false) ⟨tree, shown⟩ (fun done _ => done = false)
      fun _ => True := by
  unfold check
  refine ends_currentTree ?_
  rw [missing, Bool.not_false, if_pos rfl]
  exact Ends.bind ((ends_log _ _).mono_failed fun _ _ => trivial) fun _ _ _ => rfl

theorem ends_convert_of_missing {overrides : Settings.Table}
    (missing : tree.contains input = false) :
    Ends (convert input (some output) overrides) ⟨tree, shown⟩ (fun done _ => done = false)
      fun _ => True := by
  unfold convert
  refine ends_currentTree ?_
  rw [missing, Bool.not_false, if_pos rfl]
  exact Ends.bind ((ends_log _ _).mono_failed fun _ _ => trivial) fun _ _ _ => rfl

theorem Find.exists_mem {paths : List Path} {results : List Result}
    (found : Find settings tree paths results) :
    ∀ path ∈ paths, ∃ result ∈ results, fileResult settings tree path = .ok result := by
  induction found with
  | nil => exact fun path member => nomatch member
  | cons here rest inductionHypothesis =>
      refine List.forall_mem_cons.2 ⟨⟨_, List.mem_cons_self, here⟩, fun path member => ?_⟩
      obtain ⟨result, inside, found⟩ := inductionHypothesis path member
      exact ⟨result, List.mem_cons_of_mem _ inside, found⟩

theorem Find.unique {paths : List Path} {results others : List Result}
    (found : Find settings tree paths results) (found' : Find settings tree paths others) :
    results = others := by
  induction found generalizing others with
  | nil =>
      cases found'
      rfl
  | cons here rest inductionHypothesis =>
      cases found' with
      | cons here' rest' =>
          rw [Except.ok.inj (here.symm.trans here'), inductionHypothesis rest']

theorem exists_find {paths : List Path}
    (survives : ∀ path ∈ paths, ∃ result, fileResult settings tree path = .ok result) :
    ∃ results, Find settings tree paths results := by
  induction paths with
  | nil => exact ⟨[], .nil⟩
  | cons path rest inductionHypothesis =>
      obtain ⟨⟨result, here⟩, others⟩ := List.forall_mem_cons.1 survives
      obtain ⟨results, found⟩ := inductionHypothesis others
      exact ⟨result :: results, .cons here found⟩

theorem forall₂_sameFindings (isRuntime : isIdentifier settings.runtimeAlias = true)
    (isRuntime' : isIdentifier settings'.runtimeAlias = true)
    (agree : settings.failFast = settings'.failFast) {paths : List Path}
    {results others : List Result} (found : Find settings tree paths results)
    (found' : Find settings' tree paths others) : List.Forall₂ SameFindings results others := by
  induction found generalizing others with
  | nil =>
      cases found'
      exact .nil
  | cons here rest inductionHypothesis =>
      cases found' with
      | cons here' rest' =>
          exact .cons (sameFindings_of_fileResult isRuntime isRuntime' agree here here')
            (inductionHypothesis rest')

/-- The command that looks for errors succeeds exactly if every file does. -/
theorem check_succeeds_iff {overrides : Settings.Table} (present : tree.contains input = true)
    (loaded : Settings.load tree (settingsDirectory tree input) overrides = .ok settings)
    {results : List Result} (found : Find settings tree (filesAt tree input) results) :
    (∃ later, (check input overrides false).run ⟨tree, shown⟩ = (.ok true, later)) ↔
      results.all Result.succeeded = true := by
  have ends : Ends (check input overrides false) ⟨tree, shown⟩ _ _ := ends_check present loaded
  constructor
  · rintro ⟨later, returns⟩
    obtain ⟨⟨others, found', all, -⟩⟩ := ends.of_ok returns
    rw [found.unique found', ← all]
  · intro all
    -- A file that was expanded gives the command no reason to fail.
    have never : ∀ abort, ¬ ∃ path ∈ filesAt tree input,
        FileFails settings tree path (Result.refusals path) abort := by
      rintro abort ⟨path, member, fails⟩
      obtain ⟨result, inside, here⟩ := found.exists_mem path member
      cases fails with
      | source escapes => cases here.symm.trans escapes
      | markup came noted illegible =>
          obtain rfl := Except.ok.inj (here.symm.trans came)
          rw [Result.refusals_of_succeeded (List.all_eq_true.1 all _ inside)] at noted
          cases noted
    obtain ⟨done, later, returns, ⟨⟨others, found', whole, -⟩⟩⟩ :=
      ends.exists_of_not_failed never
    rw [found.unique found', ← whole] at all
    exact ⟨later, all ▸ returns⟩

/-- A conversion succeeds exactly if every file does and what it says of itself can be shown. -/
theorem convert_succeeds_iff {overrides : Settings.Table} (sound : tree.Sound)
    (present : tree.contains input = true)
    (loaded : Settings.load tree (settingsDirectory tree input) overrides = .ok settings)
    (beside : Beside input output)
    (writable : ∀ fault later, (convert input (some output) overrides).run ⟨tree, shown⟩ ≠
      (.error (.files fault), later))
    {results : List Result} (found : Find settings tree (filesAt tree input) results) :
    (∃ later, (convert input (some output) overrides).run ⟨tree, shown⟩ = (.ok true, later)) ↔
      results.all Result.succeeded = true ∧
        ∀ message ∈ convertRemarks settings tree input output, Legible message := by
  have ends : Ends (convert input (some output) overrides) ⟨tree, shown⟩ _ _ :=
    ends_convert sound present loaded (undisturbed_of_beside sound beside)
  constructor
  · rintro ⟨later, returns⟩
    obtain ⟨⟨others, found', all, -⟩, legible⟩ := ends.of_ok returns
    exact ⟨by rw [found.unique found', ← all], legible⟩
  · rintro ⟨all, legible⟩
    cases outcome : (convert input (some output) overrides).run ⟨tree, shown⟩ with
    | mk result later =>
        cases result with
        | ok done =>
            obtain ⟨⟨others, found', whole, -⟩, -⟩ := ends.of_ok outcome
            rw [found.unique found', ← whole] at all
            exact ⟨later, by rw [all]⟩
        | error abort =>
            exfalso
            cases ends.of_error outcome with
            | files fault => exact writable fault later outcome
            | source member escapes =>
                obtain ⟨result, -, here⟩ := found.exists_mem _ member
                cases here.symm.trans escapes
            | markup member illegible => exact illegible (legible _ member)

/-- How a search for errors compares with a conversion of the same files. -/
structure Agree (settings settings' : Settings) (tree : Tree) (input output : Path)
    (overrides overrides' : Settings.Table) (shown : List Output) : Prop where
  /-- A conversion succeeds if a search does and if what it says of itself can be shown. -/
  succeed : (∃ later, (convert input (some output) overrides').run ⟨tree, shown⟩ =
      (.ok true, later)) ↔
    (∃ later, (check input overrides false).run ⟨tree, shown⟩ = (.ok true, later)) ∧
      ∀ message ∈ convertRemarks settings' tree input output, Legible message
  /-- In every file both find the same, and both show what they find. -/
  find : tree.contains input = true → ∃ results results',
    Find settings tree (filesAt tree input) results ∧
    Find settings' tree (filesAt tree input) results' ∧
    List.Forall₂ SameFindings results results' ∧
    (∀ done later, (check input overrides false).run ⟨tree, shown⟩ = (.ok done, later) →
      ∃ reported, Told (checkMessages (filesAt tree input) results) shown reported ∧
        reported <:+ later.shown) ∧
    ∀ done later, (convert input (some output) overrides').run ⟨tree, shown⟩ =
      (.ok done, later) →
      ∃ reported, Told (convertMessages tree input output results') shown reported ∧
        reported <:+ later.shown
  /-- What is found in any code does not depend on what is written. -/
  expand : ∀ code outcome outcome', run settings code = .ok outcome →
    run settings' code = .ok outcome' →
      outcome.succeeded = outcome'.succeeded ∧ outcome.errors = outcome'.errors ∧
        outcome.warnings = outcome'.warnings ∧ outcome.modules = outcome'.modules

def besides : Path := ⟨0, ["out"]⟩

/-- A directory whose path is written as a tag that ends a style. -/
def bracketed : Path := ⟨0, ["[", "x]"]⟩

def bracketedTree : Tree :=
  ⟨[(["["], .directory), (["[", "x]"], .directory),
    (["[", "x]", "a.py"], .file (Utf8.encode "x = 1\n".toList))]⟩

theorem collectSources_bracketed : collectSources bracketedTree bracketed = [["a.py"]] := by
  rw [@collectSources_eq_of_sorted bracketedTree bracketed ["[", "x]"] (by decide +kernel)
    (by decide +kernel)]
  decide +kernel

def ordinary : Path := ⟨0, ["in"]⟩

def ordinaryTree : Tree :=
  ⟨[(["in"], .directory),
    (["in", "a.py"], .file (Utf8.encode "@pymodule\ndef a(m):0\n".toList))]⟩

/-- Values for a conversion that a search for errors does not take. -/
def otherCode : Settings.Table := [("runtime_alias", .text "rt"), ("emit_init", .truth false)]

theorem collectSources_ordinary : collectSources ordinaryTree ordinary = [["a.py"]] := by
  rw [@collectSources_eq_of_sorted ordinaryTree ordinary ["in"] (by decide +kernel)
    (by decide +kernel)]
  decide +kernel

end

end ModuleGlue.Command
