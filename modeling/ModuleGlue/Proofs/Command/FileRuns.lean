import ModuleGlue.Command.Check
import ModuleGlue.Command.Convert
import ModuleGlue.Proofs.Command.Runs
import ModuleGlue.Proofs.Files.Growth

/-!
Contract: what the commands do with one file.

Both commands read the file, expand it and report on it in the same way. What becomes of it is a
question of its content and the settings only. A conversion then writes the expanded code, if there
is any; nothing else is changed.

Main statements: `ends_checkFile`, `ends_convertFile`.

Owns: what becomes of a file, the messages on it, and what is written.

Does not own: several files.
-/

namespace ModuleGlue.Command

open ModuleGlue.Console (Level Legible)
open ModuleGlue.Expansion (Outcome run)
open ModuleGlue.Files (Path Tree)
open ModuleGlue.Files.Tree (Grown grown_of_makeDirectories grown_of_write)
open ModuleGlue.Settings (directoryPlace?)
open ModuleGlue.Source (SourceError)
open ModuleGlue.Text (Utf8.encode)

/-! ## What becomes of a file -/

/-- What becomes of the file at a path, if its expansion gives an outcome. -/
def fileResult (settings : Settings) (tree : Tree) (path : Path) : Except SourceError Result :=
  match readSource tree path with
  | .error fault => .ok (.unread fault)
  | .ok code => (run settings code).map .expanded

/-- The code that a file is expanded to, if it was read and nothing is wrong with it. -/
def Result.code? : Result → Option String
  | .unread _ => none
  | .expanded outcome => if outcome.succeeded then some outcome.code else none

/-- The code that the file at a path is expanded to, if it can be read and nothing is wrong with
it. -/
def expansionAt (settings : Settings) (tree : Tree) (path : Path) : Option String :=
  match fileResult settings tree path with
  | .ok result => result.code?
  | .error _ => none

theorem Result.succeeded_eq (result : Result) : result.succeeded = result.code?.isSome := by
  cases result with
  | unread fault => rfl
  | expanded outcome =>
      change outcome.succeeded =
        (if outcome.succeeded = true then some outcome.code else none).isSome
      cases outcome.succeeded <;> rfl

theorem expansionAt_of_fileResult {settings : Settings} {tree : Tree} {path : Path}
    {result : Result} (found : fileResult settings tree path = .ok result) :
    expansionAt settings tree path = result.code? := by
  unfold expansionAt
  rw [found]

/-- A file that reads the same comes to the same. -/
theorem fileResult_congr (settings : Settings) {tree later : Tree} {path : Path}
    (same : later.read path = tree.read path) :
    fileResult settings later path = fileResult settings tree path := by
  unfold fileResult readSource
  rw [same]

/-! ## Messages -/

def unreadMessage (path : Path) (fault : ReadFault) : Level × String :=
  (.error, s!"Failed to read {path.render}: {fault.render}")

/-- The message on a file that has been expanded into another one. -/
def expandedMessage (input output : Path) : Level × String :=
  (.success, s!"Expanded: [path]{input.render}[/path] -> [path]{output.render}[/path]")

namespace Result

def diagnostics (label : String) : Result → List (Level × String)
  | .unread _ => []
  | .expanded outcome => outcomeMessages label outcome

def refusals (path : Path) : Result → List (Level × String)
  | .unread fault => [unreadMessage path fault]
  | .expanded _ => []

/-- The messages of a conversion of a file that are not about its content. -/
def remarks (input output : Path) : Result → List (Level × String)
  | .unread fault => [unreadMessage input fault]
  | .expanded outcome =>
    if outcome.succeeded && !outcome.modules.isEmpty then [expandedMessage input output] else []

theorem legible_diagnostics {label : String} {result : Result} {message : Level × String}
    (member : message ∈ result.diagnostics label) : Legible message := by
  cases result with
  | unread fault => cases member
  | expanded outcome => exact legible_outcomeMessages member

/-- About a file that was expanded, there is nothing to refuse. -/
theorem refusals_of_succeeded {result : Result} (succeeded : result.succeeded = true)
    (path : Path) : result.refusals path = [] := by
  cases result with
  | unread fault => cases succeeded
  | expanded outcome => rfl

end Result

/-! ## Looking for errors -/

/-- Why a run over a file can fail: its expansion does not give an outcome, or a message on it
cannot be shown. -/
inductive FileFails (settings : Settings) (tree : Tree) (path : Path)
    (messages : Result → List (Level × String)) : Abort → Prop where
  | source {error : SourceError} (escapes : fileResult settings tree path = .error error) :
      FileFails settings tree path messages (.source error)
  | markup {error : Console.MarkupError} {result : Result} {message : Level × String}
      (found : fileResult settings tree path = .ok result) (member : message ∈ messages result)
      (illegible : ¬ Legible message) : FileFails settings tree path messages (.markup error)

section
variable {settings : Settings} {session : Session} {path : Path}

theorem ends_reportUnread (fault : ReadFault) :
    Ends (reportUnread path fault) session
      (fun _ later => Tells [unreadMessage path fault] session later)
      (CannotShow [unreadMessage path fault]) :=
  ends_log .error _

theorem fileResult_of_unread (settings : Settings) {tree : Tree} {fault : ReadFault}
    (unread : readSource tree path = .error fault) :
    fileResult settings tree path = .ok (.unread fault) := by
  unfold fileResult
  rw [unread]

theorem fileResult_of_read (settings : Settings) {tree : Tree} {code : String}
    (read : readSource tree path = .ok code) :
    fileResult settings tree path = (run settings code).map .expanded := by
  unfold fileResult
  rw [read]

/-- A file that cannot be read, in either command. -/
theorem ends_unread (settings : Settings) {fault : ReadFault}
    (unread : readSource session.tree path = .error fault)
    (messages : Result → List (Level × String))
    (refused : messages (.unread fault) = [unreadMessage path fault]) :
    Ends (do reportUnread path fault; return Result.unread fault) session
      (fun result later => result = .unread fault ∧ Tells (messages result) session later)
      (FileFails settings session.tree path messages) := by
  refine Ends.bind ((ends_reportUnread fault).mono_failed ?_) ?_
  · rintro abort ⟨⟨error, rfl⟩, message, member, illegible⟩
    exact .markup (fileResult_of_unread settings unread) (refused ▸ member) illegible
  · intro _ later tells
    exact ⟨rfl, refused ▸ tells⟩

/-- An outcome, or a literal that ends the command. -/
theorem ends_outcome {code : String} (read : readSource session.tree path = .ok code)
    {messages : Result → List (Level × String)} :
    Ends (orAbort .source (run settings code)) session
      (fun outcome later => later = session ∧
        fileResult settings session.tree path = .ok (.expanded outcome))
      (FileFails settings session.tree path messages) := by
  have result := fileResult_of_read settings read
  refine ends_orAbort (fun outcome returns => ⟨rfl, ?_⟩) fun error escapes => .source ?_
  · rw [result, returns]
    rfl
  · rw [result, escapes]
    rfl

/-- **Looking for errors in a file**: nothing is changed, and what is found is shown. -/
theorem ends_checkFile (settings : Settings) (path : Path) (session : Session) :
    Ends (checkFile settings path) session
      (fun result later => fileResult settings session.tree path = .ok result ∧
        Tells (result.diagnostics path.render ++ result.refusals path) session later)
      (FileFails settings session.tree path (Result.refusals path)) := by
  unfold checkFile
  refine ends_currentTree ?_
  cases read : readSource session.tree path with
  | error fault =>
      refine (ends_unread settings read (Result.refusals path) rfl).mono ?_ fun _ fails => fails
      rintro result later ⟨rfl, tells⟩
      exact ⟨fileResult_of_unread settings read, tells⟩
  | ok code =>
      refine Ends.bind (ends_outcome read) ?_
      rintro outcome middle ⟨rfl, found⟩
      refine Ends.bind (ends_reportOutcome path.render outcome).of_never fun _ later tells => ?_
      refine ⟨found, ?_⟩
      rw [Result.refusals, List.append_nil]
      exact tells

/-! ## Converting -/

/-- What a conversion of a file does to the files: the code stands where the output path leads, and
can be found there; at most directories have been made beside it. Without code, nothing changes. -/
def Placed (output : Path) (code? : Option String) (tree later : Tree) : Prop :=
  match code? with
  | none => later = tree
  | some code => ∃ place, directoryPlace? output = some place ∧
      Grown (· = place) tree later ∧ later.entry? place = some (.file (Utf8.encode code.toList)) ∧
      later.locate output = .ok place

theorem ends_writeOutput (output : Path) (code : String) (session : Session) :
    Ends (writeOutput output code) session
      (fun _ later => later.shown = session.shown ∧
        Placed output (some code) session.tree later.tree)
      fun abort => ∃ fault, abort = .files fault := by
  unfold writeOutput
  refine Ends.bind (ends_changeTree _ session) ?_
  rintro - middle ⟨shown, made⟩
  refine (ends_changeTree _ middle).mono ?_ fun _ failed => failed
  rintro - later ⟨shown', wrote⟩
  obtain ⟨place, leads, grown, stands, located⟩ := grown_of_write wrote
  have directories : Grown (· = place) session.tree middle.tree :=
    (grown_of_makeDirectories made).mono fun _ never => never.elim
  exact ⟨shown'.trans shown, place, leads, directories.trans grown, stands, located⟩

/-- A file in which there are modules is named when it has been expanded. -/
theorem ends_remark {outcome : Outcome} (succeeded : outcome.succeeded = true)
    (input output : Path) (session : Session) :
    Ends (do
        if !outcome.modules.isEmpty then
          log .success s!"Expanded: [path]{input.render}[/path] -> [path]{output.render}[/path]"
        return Result.expanded outcome) session
      (fun result later => result = .expanded outcome ∧
        Tells ((Result.expanded outcome).remarks input output) session later)
      (CannotShow ((Result.expanded outcome).remarks input output)) := by
  by_cases some : (!outcome.modules.isEmpty) = true
  · have remark : (Result.expanded outcome).remarks input output =
        [expandedMessage input output] := if_pos (by rw [succeeded, some]; rfl)
    rw [if_pos some, remark]
    exact Ends.bind (ends_log _ _) fun _ later noted => ⟨rfl, noted⟩
  · have remark : (Result.expanded outcome).remarks input output = [] :=
      if_neg (by rw [succeeded]; exact some)
    rw [if_neg some, remark]
    exact ⟨rfl, rfl, .nil _⟩

/-- About a file that was not expanded, there is nothing more to say, and nothing to write. -/
theorem Result.remarks_of_failed {outcome : Outcome} (failed : ¬ outcome.succeeded = true)
    (input output : Path) : (Result.expanded outcome).remarks input output = [] :=
  if_neg fun both => failed (Bool.and_eq_true_iff.1 both).1

/-- **Converting a file**: what is found is shown, and the expanded code is written if nothing is
wrong. -/
theorem ends_convertFile (settings : Settings) (input output : Path) (session : Session) :
    Ends (convertFile settings input (some output)) session
      (fun result later => fileResult settings session.tree input = .ok result ∧
        Told (result.diagnostics input.name ++ result.remarks input output) session.shown
          later.shown ∧
        Placed output result.code? session.tree later.tree)
      fun abort => (∃ fault, abort = .files fault) ∨
        FileFails settings session.tree input (Result.remarks input output) abort := by
  unfold convertFile
  refine ends_currentTree ?_
  cases read : readSource session.tree input with
  | error fault =>
      refine (ends_unread settings read (Result.remarks input output) rfl).mono ?_
        fun _ fails => Or.inr fails
      rintro result later ⟨rfl, tells⟩
      exact ⟨fileResult_of_unread settings read, tells.told, tells.tree⟩
  | ok code =>
      refine Ends.bind ((ends_outcome read).mono_failed fun _ fails => Or.inr fails) ?_
      rintro outcome middle ⟨rfl, found⟩
      refine Ends.bind (ends_reportOutcome input.name outcome).of_never
        fun _ reported tells => ?_
      dsimp only
      by_cases succeeded : outcome.succeeded = true
      · rw [if_pos succeeded]
        have code : (Result.expanded outcome).code? = some outcome.code := if_pos succeeded
        have written := ends_writeOutput output outcome.code reported
        refine Ends.bind (written.mono_failed fun _ failed => Or.inl failed) ?_
        rintro - written ⟨shown, placed⟩
        rw [tells.tree] at placed
        refine (ends_remark succeeded input output written).mono ?_ ?_
        · rintro result later ⟨rfl, noted⟩
          refine ⟨found, tells.told.append (shown ▸ noted.told), ?_⟩
          rw [code, noted.tree]
          exact placed
        · rintro abort ⟨⟨error, rfl⟩, message, member, illegible⟩
          exact Or.inr (.markup found member illegible)
      · rw [if_neg succeeded]
        have code : (Result.expanded outcome).code? = none := if_neg succeeded
        refine ⟨found, ?_, ?_⟩
        · rw [Result.remarks_of_failed succeeded, List.append_nil]
          exact tells.told
        · rw [code]
          exact tells.tree

end

end ModuleGlue.Command
