import ModuleGlue.Command.Program
import ModuleGlue.Proofs.Command.FileRuns

/-!
Contract: converting a directory.

All files are listed before the first of them is read, and each of them is read when its turn comes.
If none of them is written over before its turn, each comes to what it would come to alone.

Main statements: `Converted.step` and `ends_convertFiles` (what holds when some files have been
converted) and `convert_alone` (when the command gives an exit code, and what it leaves behind).

Owns: the files of a directory, where their expansions go, and the runs of the command over them.

Does not own: what becomes of one file.
-/

namespace ModuleGlue.Command

open ModuleGlue.Console (Entry Level Legible unopened_append unopened_number)
open ModuleGlue.Files (Path Place Tree)
open ModuleGlue.Files.Tree (Grown directoryPlace?_append directoryPlace?_of_locate locate_mono)
open ModuleGlue.Settings (directoryPlace?)
open ModuleGlue.Text (Utf8.encode)

/-! ## Sources -/

/-- A file that stands in a tree at a path below the input, under names that lead downwards. -/
structure Listed (tree : Tree) (input : Path) (source : Place) : Prop where
  stands : ∃ place entry, tree.locate (input.append source) = .ok place ∧
    tree.entry? place = some entry
  downwards : Path.up ∉ source

/-- The files of a directory stand in the tree. -/
theorem listed_of_mem {tree : Tree} (sound : tree.Sound) {input : Path} {source : Place}
    (member : source ∈ collectSources tree input) : Listed tree input source := by
  unfold collectSources at member
  split at member
  · rename_i place located
    have below := (List.mem_filter.1 member).1
    obtain ⟨-, found⟩ := Tree.mem_below_iff.1 below
    obtain ⟨entry, found⟩ := Option.isSome_iff_exists.1 found
    refine ⟨⟨place ++ source, entry, sound.locate_below located found, found⟩, fun up => ?_⟩
    exact sound.named _ _ found (List.mem_append_right place up)
  · cases member

/-- No file is listed twice. -/
theorem nodup_collectSources (tree : Tree) (input : Path) : (collectSources tree input).Nodup := by
  unfold collectSources
  split
  · exact (Tree.below_nodup tree _).filter _
  · exact List.nodup_nil

/-- The files of a directory, if the tree has them in order. -/
theorem collectSources_eq_of_sorted {tree : Tree} {input : Path} {place : Place}
    (located : tree.locate input = .ok place)
    (sorted : (tree.namesBelow place).Pairwise fun first second =>
      Tree.precedes first second = true) :
    collectSources tree input = (tree.namesBelow place).filter fun below =>
      ".py".toList.isSuffixOf (below.getLast?.getD "").toList := by
  unfold collectSources sourcePlaces
  rw [located]
  exact congrArg _ (Tree.below_eq_of_sorted sorted)

section
variable {settings : Settings} {tree : Tree} {input output : Path}

/-! ## Where expansions go -/

/-- The places at which the expansions of some files are written. -/
def Targets (settings : Settings) (tree : Tree) (input output : Path) (sources : List Place) :
    Place → Prop :=
  fun target => ∃ source ∈ sources, (expansionAt settings tree (input.append source)).isSome ∧
    directoryPlace? (output.append source) = some target

/-- No file is written over by the expansion of one that comes before it. -/
def Undisturbed (settings : Settings) (tree : Tree) (input output : Path) (sources : List Place) :
    Prop :=
  sources.Pairwise fun earlier later => (expansionAt settings tree (input.append earlier)).isSome →
    directoryPlace? (output.append earlier) ≠ directoryPlace? (input.append later)

theorem Targets.mono {sources others : List Place} {target : Place}
    (written : Targets settings tree input output sources target)
    (wider : sources ⊆ others) : Targets settings tree input output others target := by
  obtain ⟨source, member, expands, leads⟩ := written
  exact ⟨source, wider member, expands, leads⟩

/-- Different files go to different places. -/
theorem eq_of_target_eq {source other : Place} (downwards : Path.up ∉ source)
    (downwards' : Path.up ∉ other) {target : Place}
    (leads : directoryPlace? (output.append source) = some target)
    (leads' : directoryPlace? (output.append other) = some target) : source = other := by
  rw [directoryPlace?_append output downwards] at leads
  rw [directoryPlace?_append output downwards'] at leads'
  obtain ⟨place, found, rfl⟩ := Option.map_eq_some_iff.1 leads
  rw [found] at leads'
  exact (List.append_cancel_left (Option.some.inj leads')).symm

/-! ## Some files converted -/

/-- What holds of the files when those at some places have been converted: the expansions stand
where they belong, and nothing else has changed, but for directories that have been made. -/
structure Converted (settings : Settings) (tree : Tree) (input output : Path) (done : List Place)
    (now : Tree) : Prop where
  grown : Grown (Targets settings tree input output done) tree now
  written : ∀ source ∈ done, ∀ code, expansionAt settings tree (input.append source) = some code →
    ∃ target, directoryPlace? (output.append source) = some target ∧
      now.entry? target = some (.file (Utf8.encode code.toList)) ∧
      now.locate (output.append source) = .ok target

theorem converted_nil (settings : Settings) (tree : Tree) (input output : Path) :
    Converted settings tree input output [] tree :=
  ⟨.refl _ tree, fun _ member => nomatch member⟩

/-- What has been written can be read. -/
theorem Converted.read_eq {done : List Place} {now : Tree}
    (converted : Converted settings tree input output done now) {source : Place}
    (member : source ∈ done) {code : String}
    (expands : expansionAt settings tree (input.append source) = some code) :
    now.read (output.append source) = .ok (Utf8.encode code.toList) := by
  obtain ⟨target, -, stands, located⟩ := converted.written source member code expands
  unfold Tree.read Tree.find
  rw [located]
  dsimp only [bind, Except.bind]
  rw [stands]

/-- A file that has not been written over comes to what it comes to alone. -/
theorem Converted.fileResult_eq {done : List Place} {now : Tree}
    (converted : Converted settings tree input output done now) {source : Place}
    (listed : Listed tree input source)
    (undisturbed : ∀ earlier ∈ done, (expansionAt settings tree (input.append earlier)).isSome →
      directoryPlace? (output.append earlier) ≠ directoryPlace? (input.append source)) :
    fileResult settings now (input.append source) =
      fileResult settings tree (input.append source) := by
  obtain ⟨place, entry, located, found⟩ := listed.stands
  refine fileResult_congr settings (converted.grown.read_eq located found ?_)
  rintro ⟨earlier, member, expands, leads⟩
  exact undisturbed earlier member expands (leads.trans (directoryPlace?_of_locate located).symm)

/-- **One more file**: what has been written so far stays where it is. -/
theorem Converted.step {done : List Place} {source : Place} {now later : Tree}
    (converted : Converted settings tree input output done now) (fresh : source ∉ done)
    (downwards : ∀ other ∈ done ++ [source], Path.up ∉ other)
    (placed : Placed (output.append source) (expansionAt settings tree (input.append source)) now
      later) :
    Converted settings tree input output (done ++ [source]) later := by
  have before := converted.grown.mono fun place written =>
    written.mono (List.subset_append_left done [source])
  have here : source ∈ done ++ [source] := List.mem_append_right done (List.mem_singleton_self _)
  cases expands : expansionAt settings tree (input.append source) with
  | none =>
      rw [expands] at placed
      obtain rfl : later = now := placed
      refine ⟨before, fun other member code expanded => ?_⟩
      rcases List.mem_append.1 member with earlier | last
      · exact converted.written other earlier code expanded
      · rw [List.mem_singleton.1 last, expands] at expanded
        cases expanded
  | some code =>
      rw [expands] at placed
      obtain ⟨target, leads, grown, stands, located⟩ := placed
      refine ⟨before.trans (grown.mono ?_), fun other member code' expanded => ?_⟩
      · rintro place rfl
        exact ⟨source, here, by rw [expands]; rfl, leads⟩
      rcases List.mem_append.1 member with earlier | last
      · obtain ⟨target', leads', stands', located'⟩ :=
          converted.written other earlier code' expanded
        refine ⟨target', leads', grown.stays ?_ stands', locate_mono grown.directories located'⟩
        rintro rfl
        have same := eq_of_target_eq (downwards other member) (downwards source here) leads' leads
        exact fresh (same ▸ earlier)
      · obtain rfl := List.mem_singleton.1 last
        obtain rfl := Option.some.inj (expands.symm.trans expanded)
        exact ⟨target, leads, stands, located⟩

/-! ## All files -/

/-- What some files come to, each of them alone. -/
def ComeTo (settings : Settings) (tree : Tree) (input : Path) :
    List Place → List (Place × Result) → Prop :=
  List.Forall₂ fun source found =>
    found.1 = source ∧ fileResult settings tree (input.append source) = .ok found.2

/-- The messages on a file with what it came to, in a batch. -/
def batchMessages (input output : Path) (found : Place × Result) : List (Level × String) :=
  found.2.diagnostics (input.append found.1).name ++
    found.2.remarks (input.append found.1) (output.append found.1)

theorem FileFails.congr {now : Tree} {path : Path} {messages : Result → List (Level × String)}
    {abort : Abort} (fails : FileFails settings now path messages abort)
    (same : fileResult settings now path = fileResult settings tree path) :
    FileFails settings tree path messages abort := by
  cases fails with
  | source escapes => exact .source (same ▸ escapes)
  | markup found member illegible => exact .markup (same ▸ found) member illegible

/-- **All files**: a run over files that are not written over before their turn comes to what each
of them comes to alone. -/
theorem ends_convertFiles {done sources : List Place} {session : Session}
    (listed : ∀ source ∈ done ++ sources, Listed tree input source)
    (distinct : (done ++ sources).Nodup)
    (undisturbed : Undisturbed settings tree input output (done ++ sources))
    (converted : Converted settings tree input output done session.tree) :
    Ends (convertFiles settings input output sources) session
      (fun results later => ComeTo settings tree input sources results ∧
        Told (results.flatMap (batchMessages input output)) session.shown later.shown ∧
        Converted settings tree input output (done ++ sources) later.tree)
      fun abort => (∃ fault, abort = .files fault) ∨ ∃ source ∈ sources,
        FileFails settings tree (input.append source)
          (Result.remarks (input.append source) (output.append source)) abort := by
  induction sources generalizing done session with
  | nil =>
      rw [List.append_nil]
      exact ⟨.nil, .nil _, converted⟩
  | cons source rest inductionHypothesis =>
      have member : source ∈ done ++ source :: rest :=
        List.mem_append_right done List.mem_cons_self
      have alone := converted.fileResult_eq (listed source member) fun earlier before =>
        (List.pairwise_append.1 undisturbed).2.2 earlier before source List.mem_cons_self
      have split : done ++ source :: rest = done ++ [source] ++ rest := List.append_cons ..
      unfold convertFiles
      refine Ends.bind ((ends_convertFile settings _ _ session).mono_failed ?_) ?_
      · rintro abort (failed | fails)
        · exact Or.inl failed
        · exact Or.inr ⟨source, List.mem_cons_self, fails.congr alone⟩
      rintro result middle ⟨found, told, placed⟩
      rw [alone] at found
      rw [← expansionAt_of_fileResult found] at placed
      have fresh : source ∉ done := fun earlier =>
        (List.nodup_append.1 distinct).2.2 source earlier source List.mem_cons_self rfl
      have next := converted.step fresh (fun other inside => (listed other (by
        rw [split]
        exact List.mem_append_left rest inside)).downwards) placed
      rw [split] at listed distinct undisturbed ⊢
      have others := inductionHypothesis listed distinct undisturbed next
      refine Ends.bind (others.mono_failed ?_) ?_
      · rintro abort (failed | ⟨other, inside, fails⟩)
        · exact Or.inl failed
        · exact Or.inr ⟨other, List.mem_cons_of_mem source inside, fails⟩
      · rintro results later ⟨others, told', whole⟩
        exact ⟨.cons ⟨rfl, found⟩ others, told.append told', whole⟩

end

/-! ## The report on a directory -/

section
variable {session : Session}

theorem ends_emit (output : Output) :
    Ends (emit output) session
      (fun _ later => later.tree = session.tree ∧ session.shown <:+ later.shown)
      fun _ => False :=
  ⟨rfl, List.suffix_cons _ _⟩

theorem ends_showMarkup {text : String} (shows : ∃ entry, Entry.ofMarkup text = .ok entry) :
    Ends (showMarkup text) session
      (fun _ later => later.tree = session.tree ∧ session.shown <:+ later.shown)
      fun _ => False := by
  obtain ⟨entry, shows⟩ := shows
  unfold showMarkup
  rw [shows]
  exact ⟨rfl, List.suffix_cons _ _⟩

theorem legible_complete (clean total : Nat) :
    Legible (.success, s!"Batch Complete: {clean}/{total} files expanded cleanly.") := by
  refine Console.legible_of_unopened .success ?_
  exact unopened_append (unopened_append (unopened_append (unopened_append (by decide)
    (unopened_number clean)) (by decide)) (unopened_number total)) (by decide)

theorem exists_summary (clean others : Nat) : ∃ entry,
    Entry.ofMarkup s!"\n[bold]Summary:[/bold] {clean} Clean, {others} with Issues." =
      .ok entry := by
  let numbers := toString clean ++ " Clean, " ++ toString others ++ " with Issues."
  have free : '[' ∉ numbers.toList :=
    unopened_append (unopened_append (unopened_append (unopened_number clean)
      (by decide)) (unopened_number others)) (by decide)
  have heading : "\n[bold]Summary:[/bold] ".toList =
      ['\n'] ++ (Console.styled "bold" "Summary:".toList ++ [' ']) := by decide
  have shape : ("\n[bold]Summary:[/bold] " ++ toString clean ++ " Clean, " ++ toString others ++
      " with Issues.").toList =
      ['\n'] ++ (Console.styled "bold" "Summary:".toList ++ (' ' :: numbers.toList)) := by
    simp only [numbers, String.toList_append, heading, List.append_assoc, List.cons_append,
      List.nil_append]
  refine Console.exists_ofMarkup_of_settles ?_
  change Console.Settles (Console.tags ("\n[bold]Summary:[/bold] " ++ toString clean ++
    " Clean, " ++ toString others ++ " with Issues.").toList)
  rw [shape]
  refine .of_styled (by decide) Console.isStyle_bold (Console.settles_of_unopened (by decide))
    (Console.settles_of_unopened (by decide)) (Console.settles_of_unopened fun member => ?_)
  rcases List.mem_cons.1 member with blank | member
  · cases blank
  · exact free member

/-- The report on a directory never fails. -/
theorem ends_reportBatch (results : List (Place × Result)) :
    Ends (reportBatch results) session
      (fun _ later => later.tree = session.tree ∧ session.shown <:+ later.shown)
      fun _ => False := by
  unfold reportBatch
  dsimp only
  split
  · exact (ends_log_of_legible (legible_complete _ _)).mono
      (fun _ _ tells => ⟨tells.tree, tells.told.suffix⟩) fun _ never => never
  · refine Ends.bind (ends_emit _) fun _ middle emitted => ?_
    exact (ends_showMarkup (exists_summary _ _)).mono
      (fun _ _ more => ⟨more.1.trans emitted.1, emitted.2.trans more.2⟩) fun _ never => never

end

/-! ## The command -/

/-- The message before the files of a directory. -/
def batchHeading (input : Path) (sources : List Place) : Level × String :=
  if sources.isEmpty then (.warning, s!"No .py files found in {input.render}")
  else (.info, s!"Processing {sources.length} files from {input.render}...")

/-- The messages of a conversion of a file that are not about its content. -/
def remarksAt (settings : Settings) (tree : Tree) (input output : Path) : List (Level × String) :=
  match fileResult settings tree input with
  | .ok result => result.remarks input output
  | .error _ => []

/-- The messages of a conversion of a directory that are not about the content of a file and that
hold free text: paths, and reasons why files cannot be read. -/
def batchRemarks (settings : Settings) (tree : Tree) (input output : Path) :
    List (Level × String) :=
  batchHeading input (collectSources tree input) ::
    (collectSources tree input).flatMap fun source =>
      remarksAt settings tree (input.append source) (output.append source)

/-- **The law of a batch**: every file is converted as if it were alone. -/
structure Alone (settings : Settings) (tree : Tree) (input output : Path) (done : Bool)
    (later : Tree) : Prop where
  /-- The exit code says whether every file was read and expanded. -/
  succeeded : exitCode done = 0 ↔ ∀ source ∈ collectSources tree input,
    (expansionAt settings tree (input.append source)).isSome
  /-- What a file was expanded to stands at its own path below the output. -/
  written : ∀ source ∈ collectSources tree input, ∀ code,
    expansionAt settings tree (input.append source) = some code →
      later.read (output.append source) = .ok (Utf8.encode code.toList)
  /-- Everywhere else all stays as it is, or a directory is made where nothing stood. -/
  untouched : ∀ place,
    ¬ Targets settings tree input output (collectSources tree input) place →
      later.entry? place = tree.entry? place ∨
        tree.entry? place = none ∧ later.entry? place = some .directory

section
variable {settings : Settings} {tree : Tree} {input output : Path} {shown : List Output}

/-- A file whose expansion gives an outcome ends no command, if the remarks can be shown. -/
theorem not_fileFails {abort : Abort}
    (survives : ∃ result, fileResult settings tree input = .ok result)
    (legible : ∀ message ∈ remarksAt settings tree input output, Legible message) :
    ¬ FileFails settings tree input (Result.remarks input output) abort := by
  obtain ⟨result, found⟩ := survives
  unfold remarksAt at legible
  rw [found] at legible
  intro fails
  cases fails with
  | source escapes => cases found.symm.trans escapes
  | markup found' member illegible =>
      obtain rfl := Except.ok.inj (found.symm.trans found')
      exact illegible (legible _ member)

theorem exitCode_eq_zero_iff (succeeded : Bool) : exitCode succeeded = 0 ↔ succeeded = true := by
  cases succeeded <;> decide

theorem ComeTo.exists {sources : List Place} {results : List (Place × Result)}
    (found : ComeTo settings tree input sources results) :
    ∀ source ∈ sources, ∃ result, fileResult settings tree (input.append source) = .ok result := by
  induction found with
  | nil => exact fun source member => nomatch member
  | cons here others inductionHypothesis =>
      exact List.forall_mem_cons.2 ⟨⟨_, here.2⟩, inductionHypothesis⟩

/-- All files succeed if all expansions do. -/
theorem all_succeeded_iff {sources : List Place} {results : List (Place × Result)}
    (found : ComeTo settings tree input sources results) :
    results.all (fun (_, result) => result.succeeded) = true ↔
      ∀ source ∈ sources, (expansionAt settings tree (input.append source)).isSome := by
  induction found with
  | nil => exact ⟨fun _ _ member => (nomatch member), fun _ => rfl⟩
  | @cons source found sources results here others inductionHypothesis =>
      obtain ⟨place, result⟩ := found
      rw [List.all_cons, Bool.and_eq_true, inductionHypothesis, List.forall_mem_cons,
        expansionAt_of_fileResult here.2, ← Result.succeeded_eq]

/-- The messages that can be shown in any case are those on the content of files. -/
theorem legible_batchMessages_iff {sources : List Place} {results : List (Place × Result)}
    (found : ComeTo settings tree input sources results) :
    (∀ message ∈ results.flatMap (batchMessages input output), Legible message) ↔
      ∀ message ∈ sources.flatMap (fun source =>
        remarksAt settings tree (input.append source) (output.append source)),
        Legible message := by
  induction found with
  | nil => exact Iff.rfl
  | @cons source result sources results here others inductionHypothesis =>
      obtain ⟨rfl, here⟩ := here
      have remarks : remarksAt settings tree (input.append result.1) (output.append result.1) =
          result.2.remarks (input.append result.1) (output.append result.1) := by
        unfold remarksAt
        rw [here]
      have messages : ∀ message ∈ result.2.diagnostics (input.append result.1).name,
          Legible message := fun message member => Result.legible_diagnostics member
      rw [List.flatMap_cons, List.flatMap_cons, List.forall_mem_append, List.forall_mem_append,
        inductionHypothesis, remarks]
      unfold batchMessages
      rw [List.forall_mem_append]
      exact and_congr_left' (and_iff_right messages)

/-- What is known of the end of a conversion of a directory. -/
structure BatchDone (settings : Settings) (tree : Tree) (input output : Path) (shown : List Output)
    (done : Bool) (later : Session) : Prop where
  results : ∃ results, ComeTo settings tree input (collectSources tree input) results ∧
    done = results.all (fun (_, result) => result.succeeded) ∧
    ∃ reported, Told (batchHeading input (collectSources tree input) ::
      results.flatMap (batchMessages input output)) shown reported ∧ reported <:+ later.shown
  converted : Converted settings tree input output (collectSources tree input) later.tree

/-- Why a conversion of a directory can fail. -/
inductive BatchFails (settings : Settings) (tree : Tree) (input output : Path) : Abort → Prop where
  | files (fault : Files.Fault) : BatchFails settings tree input output (.files fault)
  | heading {error : Console.MarkupError}
      (illegible : ¬ Legible (batchHeading input (collectSources tree input))) :
      BatchFails settings tree input output (.markup error)
  | file {source : Place} {abort : Abort} (member : source ∈ collectSources tree input)
      (fails : FileFails settings tree (input.append source)
        (Result.remarks (input.append source) (output.append source)) abort) :
      BatchFails settings tree input output abort

theorem BatchFails.of_cannotShow {abort : Abort}
    (fails : CannotShow [batchHeading input (collectSources tree input)] abort) :
    BatchFails settings tree input output abort := by
  obtain ⟨⟨error, rfl⟩, message, member, illegible⟩ := fails
  rw [List.mem_singleton.1 member] at illegible
  exact .heading illegible

theorem ends_convertDirectory (sound : tree.Sound)
    (undisturbed : Undisturbed settings tree input output (collectSources tree input)) :
    Ends (convertDirectory settings input (some output)) ⟨tree, shown⟩
      (BatchDone settings tree input output shown) (BatchFails settings tree input output) := by
  unfold convertDirectory
  refine ends_currentTree ?_
  dsimp only
  split
  · rename_i empty
    have none := List.isEmpty_iff.1 empty
    have heading : batchHeading input (collectSources tree input) = _ := if_pos empty
    refine Ends.bind ((ends_log _ _).mono_failed fun _ fails => .of_cannotShow (heading ▸ fails))
      fun _ later tells => ?_
    refine ⟨⟨[], none ▸ .nil, rfl, later.shown, heading ▸ tells.told, List.suffix_refl _⟩, ?_⟩
    rw [none, tells.tree]
    exact converted_nil settings tree input output
  · rename_i some
    have heading : batchHeading input (collectSources tree input) = _ := if_neg some
    refine Ends.bind ((ends_log _ _).mono_failed fun _ fails => .of_cannotShow (heading ▸ fails))
      fun _ middle tells => ?_
    have none : Converted settings tree input output [] middle.tree :=
      tells.tree ▸ converted_nil settings tree input output
    have files := ends_convertFiles (fun source => listed_of_mem sound)
      (nodup_collectSources tree input) undisturbed none
    refine Ends.bind (files.mono_failed ?_) ?_
    · rintro abort (⟨fault, rfl⟩ | ⟨source, member, fails⟩)
      · exact .files fault
      · exact .file member fails
    rintro results converted ⟨found, told, whole⟩
    refine Ends.bind (ends_reportBatch results).of_never ?_
    rintro - later ⟨same, suffix⟩
    refine ⟨⟨results, found, rfl, converted.shown, ?_, suffix⟩, same ▸ whole⟩
    rw [heading]
    exact tells.told.append told

/-- The command, for a directory, comes to the conversion of the directory. -/
theorem ends_convert_of_directory {overrides : Settings.Table} {done : Bool → Session → Prop}
    {failed : Abort → Prop} (isDirectory : tree.isDirectory input = true)
    (loaded : Settings.load tree input overrides = .ok settings)
    (ends : Ends (convertDirectory settings input (some output)) ⟨tree, shown⟩ done failed) :
    Ends (convert input (some output) overrides) ⟨tree, shown⟩ done failed := by
  have stands : tree.find input = .ok .directory := by
    unfold Tree.isDirectory at isDirectory
    split at isDirectory
    · assumption
    · cases isDirectory
  have contains : (!tree.contains input) = false := by
    unfold Tree.contains
    rw [stands]
    rfl
  have noFile : ¬ tree.isFile input = true := by
    unfold Tree.isFile
    rw [stands]
    exact Bool.false_ne_true
  have directory : settingsDirectory tree input = input := if_pos isDirectory
  unfold convert
  refine ends_currentTree ?_
  rw [contains, if_neg Bool.false_ne_true]
  refine Ends.bind (ends_loadSettings (directory.symm ▸ loaded)) ?_
  rintro found later ⟨rfl, rfl⟩
  refine ends_currentTree ?_
  rw [if_neg noFile]
  exact ends

def whole : Path := ⟨0, []⟩

def inner : Path := ⟨0, ["sub"]⟩

/-- Two files, the second of which stands where the expansion of the first one goes if the output is
the inner directory. -/
def overlapping : Tree :=
  ⟨[(["a.py"], .file (Utf8.encode "x = 1\n".toList)), (["sub"], .directory),
    (["sub", "a.py"], .file (Utf8.encode "y = 2\n".toList))]⟩

theorem collectSources_overlapping :
    collectSources overlapping whole = [["a.py"], ["sub", "a.py"]] := by
  rw [@collectSources_eq_of_sorted overlapping whole [] (by decide +kernel) (by decide +kernel)]
  decide +kernel

end

end ModuleGlue.Command
