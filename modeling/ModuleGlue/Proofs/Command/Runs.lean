import ModuleGlue.Command.Session
import ModuleGlue.Proofs.Console.Legibility

/-!
Contract: what is known of a run.

A run ends with a value or with a failure that no command expects. What is known of its end is put
together from what is known of its steps. A step that shows something leaves the files alone, and
fails only if what it is to show has a tag that ends a style which is not open.

Main statements: `Ends.bind` (one step after another) and `ends_reportOutcome` (the report on a file
never fails).

Owns: the ends of runs, and the steps that show something.

Does not own: the commands.
-/

namespace ModuleGlue.Command

open ModuleGlue.Console (Entry Level Legible)
open ModuleGlue.Expansion (Outcome)
open ModuleGlue.Files (Path Tree)

/-! ## Ends -/

/-- A run from a session on ends as told: with a value, or with a failure. -/
def Ends {α : Type} (run : Run α) (session : Session) (done : α → Session → Prop)
    (failed : Abort → Prop) : Prop :=
  match run.run session with
  | (.ok value, later) => done value later
  | (.error abort, _) => failed abort

section
variable {α β : Type} {session later : Session} {done : α → Session → Prop} {failed : Abort → Prop}

instance (run : Run α) [∀ value later, Decidable (done value later)]
    [∀ abort, Decidable (failed abort)] : Decidable (Ends run session done failed) :=
  match ended : run.run session with
  | (.ok value, later) => decidable_of_iff (done value later) (by unfold Ends; rw [ended])
  | (.error abort, _) => decidable_of_iff (failed abort) (by unfold Ends; rw [ended])

theorem Ends.of_ok {run : Run α} {value : α} (ends : Ends run session done failed)
    (returns : run.run session = (.ok value, later)) : done value later := by
  unfold Ends at ends
  rwa [returns] at ends

theorem Ends.of_error {run : Run α} {abort : Abort} (ends : Ends run session done failed)
    (aborts : run.run session = (.error abort, later)) : failed abort := by
  unfold Ends at ends
  rwa [aborts] at ends

/-- A run that does not fail returns. -/
theorem Ends.exists_of_not_failed {run : Run α} (ends : Ends run session done failed)
    (never : ∀ abort, ¬ failed abort) :
    ∃ value later, run.run session = (.ok value, later) ∧ done value later := by
  unfold Ends at ends
  generalize run.run session = outcome at ends ⊢
  obtain ⟨value | abort, later⟩ := outcome
  · exact absurd ends (never value)
  · exact ⟨abort, later, rfl, ends⟩

theorem Ends.mono {run : Run α} {done' : α → Session → Prop} {failed' : Abort → Prop}
    (ends : Ends run session done failed) (value : ∀ value later, done value later →
      done' value later) (abort : ∀ abort, failed abort → failed' abort) :
    Ends run session done' failed' := by
  unfold Ends at ends ⊢
  generalize run.run session = outcome at ends ⊢
  obtain ⟨_ | _, later⟩ := outcome
  · exact abort _ ends
  · exact value _ _ ends

/-- The same end, for weaker reasons to fail. -/
theorem Ends.mono_failed {run : Run α} {failed' : Abort → Prop}
    (ends : Ends run session done failed) (abort : ∀ abort, failed abort → failed' abort) :
    Ends run session done failed' :=
  ends.mono (fun _ _ holds => holds) abort

/-- A run that never fails may be said to fail for any reason. -/
theorem Ends.of_never {run : Run α} (ends : Ends run session done fun _ => False) :
    Ends run session done failed :=
  ends.mono_failed fun _ never => never.elim

/-- One step after another. -/
theorem Ends.bind {run : Run α} {next : α → Run β} {done' : β → Session → Prop}
    (ends : Ends run session done failed)
    (others : ∀ value later, done value later → Ends (next value) later done' failed) :
    Ends (run >>= next) session done' failed := by
  have whole : (run >>= next).run session = match run.run session with
      | (.ok value, later) => (next value).run later
      | (.error abort, later) => (.error abort, later) := by
    change (match run.run session with
      | (result, later) => ExceptT.bindCont next result later) = _
    generalize run.run session = outcome
    obtain ⟨_ | _, _⟩ := outcome <;> rfl
  unfold Ends at ends ⊢
  rw [whole]
  generalize run.run session = outcome at ends ⊢
  obtain ⟨_ | value, later⟩ := outcome
  · exact ends
  · exact others value later ends

/-- The files are looked at. -/
theorem ends_currentTree {next : Tree → Run α}
    (ends : Ends (next session.tree) session done failed) :
    Ends (currentTree >>= next) session done failed :=
  ends

/-- A result that may be a failure, and what comes after it. -/
theorem ends_orAbort_bind {ε : Type} {abort : ε → Abort} {result : Except ε β} {next : β → Run α}
    (value : ∀ value, result = .ok value → Ends (next value) session done failed)
    (error : ∀ error, result = .error error → failed (abort error)) :
    Ends (orAbort abort result >>= next) session done failed := by
  cases result with
  | ok found => exact value found rfl
  | error reason => exact error reason rfl

theorem ends_orAbort {ε : Type} {abort : ε → Abort} {result : Except ε α}
    (value : ∀ value, result = .ok value → done value session)
    (error : ∀ error, result = .error error → failed (abort error)) :
    Ends (orAbort abort result) session done failed := by
  cases result with
  | ok found => exact value found rfl
  | error reason => exact error reason rfl

end

/-! ## Showing -/

/-- The records of some messages have been shown, one after the other. What is shown last stands
first. -/
inductive Told : List (Level × String) → List Output → List Output → Prop where
  | nil (shown : List Output) : Told [] shown shown
  | cons {level : Level} {message : String} {entry : Entry} {rest : List (Level × String)}
      {shown shown' : List Output} (record : Entry.ofMessage level message = .ok entry)
      (others : Told rest (.entry entry :: shown) shown') :
      Told ((level, message) :: rest) shown shown'

section
variable {messages others : List (Level × String)} {shown shown' shown'' : List Output}

theorem Told.append (told : Told messages shown shown') (then_ : Told others shown' shown'') :
    Told (messages ++ others) shown shown'' := by
  induction told with
  | nil shown => exact then_
  | cons record rest inductionHypothesis => exact .cons record (inductionHypothesis then_)

/-- What has been shown can be shown. -/
theorem Told.legible (told : Told messages shown shown') :
    ∀ message ∈ messages, Legible message := by
  induction told with
  | nil shown => exact fun message member => nomatch member
  | @cons level text entry rest shown shown' record others inductionHypothesis =>
      intro message member
      rcases List.mem_cons.1 member with rfl | member
      · exact ⟨entry, record⟩
      · exact inductionHypothesis message member

/-- Nothing that has been shown is taken back. -/
theorem Told.suffix (told : Told messages shown shown') : shown <:+ shown' := by
  induction told with
  | nil shown => exact List.suffix_refl shown
  | cons record others inductionHypothesis =>
      exact (List.suffix_cons _ _).trans inductionHypothesis

end

/-- A session in which some messages have been shown, and nothing else has happened. -/
structure Tells (messages : List (Level × String)) (session later : Session) : Prop where
  tree : later.tree = session.tree
  told : Told messages session.shown later.shown

theorem Tells.append {messages others : List (Level × String)} {session middle later : Session}
    (tells : Tells messages session middle) (then_ : Tells others middle later) :
    Tells (messages ++ others) session later :=
  ⟨then_.tree.trans tells.tree, tells.told.append then_.told⟩

def CannotShow (messages : List (Level × String)) (abort : Abort) : Prop :=
  (∃ error, abort = .markup error) ∧ ∃ message ∈ messages, ¬ Legible message

section
variable {session : Session}

/-- Something is shown, or has tags that do not match. -/
theorem ends_log (level : Level) (message : String) :
    Ends (log level message) session (fun _ later => Tells [(level, message)] session later)
      (CannotShow [(level, message)]) := by
  unfold log
  refine ends_orAbort_bind (fun entry record => ⟨rfl, .cons record (.nil _)⟩) ?_
  intro error refused
  refine ⟨⟨error, rfl⟩, _, List.mem_singleton_self _, ?_⟩
  rintro ⟨entry, record⟩
  rw [refused] at record
  cases record

/-- What can be shown is shown. -/
theorem ends_log_of_legible {level : Level} {message : String}
    (legible : Legible (level, message)) :
    Ends (log level message) session (fun _ later => Tells [(level, message)] session later)
      fun _ => False := by
  refine (ends_log level message).mono_failed ?_
  rintro abort ⟨-, other, member, refused⟩
  rw [List.mem_singleton.1 member] at refused
  exact refused legible

/-! ## The report on a file -/

/-- The messages on the outcome for a file under a name. -/
def outcomeMessages (label : String) (outcome : Outcome) : List (Level × String) :=
  outcome.warnings.map (Console.diagnosticMessage label · false) ++
    outcome.errors.map (Console.diagnosticMessage label · true)

theorem legible_outcomeMessages {label : String} {outcome : Outcome} {message : Level × String}
    (member : message ∈ outcomeMessages label outcome) : Legible message := by
  rcases List.mem_append.1 member with found | found
  all_goals
    obtain ⟨diagnostic, -, rfl⟩ := List.mem_map.1 found
    exact Console.legible_diagnosticMessage label diagnostic _

theorem ends_logDiagnostics (label : String) (isError : Bool) (diagnostics : List String) :
    Ends (diagnostics.forM fun diagnostic => logDiagnostic label diagnostic isError) session
      (fun _ later =>
        Tells (diagnostics.map (Console.diagnosticMessage label · isError)) session later)
      fun _ => False := by
  induction diagnostics generalizing session with
  | nil => exact ⟨rfl, .nil _⟩
  | cons diagnostic rest inductionHypothesis =>
      refine Ends.bind (ends_log_of_legible
        (Console.legible_diagnosticMessage label diagnostic isError)) fun _ middle tells => ?_
      refine inductionHypothesis.mono (fun _ later others => ?_) fun _ never => never
      exact tells.append others

/-- **The report on a file never fails**, whatever is wrong with it and whatever it is called. -/
theorem ends_reportOutcome (label : String) (outcome : Outcome) :
    Ends (reportOutcome label outcome) session
      (fun _ later => Tells (outcomeMessages label outcome) session later) fun _ => False := by
  unfold reportOutcome
  refine Ends.bind (ends_logDiagnostics label false outcome.warnings) fun _ middle warnings => ?_
  refine (ends_logDiagnostics label true outcome.errors).mono (fun _ later errors => ?_)
    fun _ never => never
  exact warnings.append errors

end

/-! ## Settings and files -/

/-- The directory whose settings hold for a path. -/
def settingsDirectory (tree : Tree) (path : Path) : Path :=
  if tree.isDirectory path then path else path.parent

theorem ends_loadSettings {tree : Tree} {path : Path} {overrides : Settings.Table}
    {settings : Settings} {shown : List Output} {failed : Abort → Prop}
    (loaded : Settings.load tree (settingsDirectory tree path) overrides = .ok settings) :
    Ends (loadSettings path overrides) ⟨tree, shown⟩
      (fun found later => found = settings ∧ later = ⟨tree, shown⟩) failed := by
  unfold loadSettings
  refine ends_currentTree (ends_orAbort (fun found read => ?_) fun error refused => ?_)
  · exact ⟨Except.ok.inj (read.symm.trans loaded), rfl⟩
  · cases refused.symm.trans loaded

theorem ends_changeTree (change : Tree → Except Files.Fault Tree) (session : Session) :
    Ends (changeTree change) session
      (fun _ later => later.shown = session.shown ∧ change session.tree = .ok later.tree)
      fun abort => ∃ fault, abort = .files fault := by
  unfold changeTree
  exact ends_currentTree (ends_orAbort_bind (fun tree changed => ⟨rfl, changed⟩)
    fun fault _ => ⟨fault, rfl⟩)

end ModuleGlue.Command
