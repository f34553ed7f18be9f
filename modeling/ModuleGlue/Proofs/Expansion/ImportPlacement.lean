import ModuleGlue.Source.Docstring
import ModuleGlue.Proofs.Expansion.Written

/-!
Contract: where the import of the runtime goes, and what it leaves alone.

The import is added once, all statements keep their order, and whatever switches language features
stays in front. The documentation of the file stays what it was, unless it shares its line with
other statements: such a line is not known for documentation, and the import goes in front of it.

Main statement: `withRuntimeImport_placed`.

Owns: the documentation of a file, and when an added import takes it away.

Does not own: which files are given an import.
-/

namespace ModuleGlue.Expansion

open ModuleGlue.Source (Module Small SourceError Statement Suite)
open ModuleGlue.Text (Points)

variable {path localName : String} {body front behind : List Statement}

/-! ## Imports -/

/-- The statement imports the module under the given name, perhaps among others. -/
def Imports (path localName : String) (statement : Statement) : Prop :=
  ∃ small ∈ simpleParts statement, ∃ names, small.form = .imports names ∧
    ⟨path, some localName⟩ ∈ names

theorem importsAs_iff {small : Small} :
    importsAs path localName small = true ↔
      ∃ names, small.form = .imports names ∧ ⟨path, some localName⟩ ∈ names := by
  unfold importsAs
  cases small.form <;> simp

theorem alreadyImports_iff {statement : Statement} :
    alreadyImports path localName statement = true ↔ Imports path localName statement := by
  simp only [alreadyImports, Imports, List.any_eq_true, importsAs_iff]

theorem any_alreadyImports_iff :
    body.any (alreadyImports path localName) = true ↔
      ∃ statement ∈ body, Imports path localName statement := by
  simp only [List.any_eq_true, alreadyImports_iff]

theorem switchesFeatures_eq_false_iff {statement : Statement} :
    switchesFeatures statement = false ↔
      ∀ small ∈ simpleParts statement, small.form ≠ .featureImport := by
  simp [switchesFeatures]

/-- The import that is added is one that is looked for. -/
theorem imports_runtimeImport (path localName : String) :
    Imports path localName (runtimeImport path localName) :=
  ⟨_, List.mem_singleton_self _, [⟨path, some localName⟩], rfl, List.mem_singleton_self _⟩

theorem withRuntimeImport_of_imports
    (there : ∃ statement ∈ body, Imports path localName statement) :
    withRuntimeImport path localName body = body := by
  unfold withRuntimeImport
  rw [if_pos (any_alreadyImports_iff.2 there)]

theorem withRuntimeImport_of_absent
    (absent : ¬ ∃ statement ∈ body, Imports path localName statement) :
    withRuntimeImport path localName body =
      body.take (leadingCount body) ++
        runtimeImport path localName :: body.drop (leadingCount body) := by
  unfold withRuntimeImport
  rw [if_neg (mt any_alreadyImports_iff.1 absent)]

/-- Behind the import nothing switches language features. -/
theorem switchesFeatures_of_mem_drop {statement : Statement}
    (member : statement ∈ body.drop (leadingCount body)) : switchesFeatures statement = false := by
  have past : (featureFront body).length ≤ leadingCount body := by
    unfold leadingCount featureFront List.rdropWhile
    rw [List.length_reverse]
    exact Nat.le_max_left _ _
  have whole : featureFront body ++ body.rtakeWhile (!switchesFeatures ·) = body :=
    List.rdropWhile_append_rtakeWhile
  have behind : body.drop (featureFront body).length = body.rtakeWhile (!switchesFeatures ·) := by
    have dropped : (featureFront body ++ body.rtakeWhile (!switchesFeatures ·)).drop
        (featureFront body).length = body.rtakeWhile (!switchesFeatures ·) := List.drop_left
    rwa [whole] at dropped
  have later : statement ∈ body.rtakeWhile (!switchesFeatures ·) := by
    rw [← behind]
    exact (List.drop_subset_drop_left body past) member
  simpa using List.mem_rtakeWhile_imp later

/-- **An import that was added is found again.** -/
theorem withRuntimeImport_idempotent (path localName : String) (body : List Statement) :
    withRuntimeImport path localName (withRuntimeImport path localName body) =
      withRuntimeImport path localName body := by
  apply withRuntimeImport_of_imports
  by_cases there : ∃ statement ∈ body, Imports path localName statement
  · rw [withRuntimeImport_of_imports there]
    exact there
  · rw [withRuntimeImport_of_absent there]
    exact ⟨_, List.mem_append_right _ List.mem_cons_self, imports_runtimeImport path localName⟩

/-! ## Documentation -/

/-- The documentation of a file: that of its first simple statement, whatever follows it on its
line. -/
def fileDocumentation (body : List Statement) : Except SourceError (Option Points) :=
  (Suite.block .plain none body []).documentation

/-- What stands behind the first statement documents nothing. -/
theorem fileDocumentation_cons (statement : Statement) (rest : List Statement) :
    fileDocumentation (statement :: rest) = fileDocumentation [statement] := by
  cases statement <;> rfl

theorem fileDocumentation_runtimeImport (path localName : String) (rest : List Statement) :
    fileDocumentation (runtimeImport path localName :: rest) = .ok none := rfl

/-- Documentation that has its line to itself is known as such. -/
theorem isDocumentation_of_documents {leading : List Source.BlankLine} {small : Small}
    {ending : Source.LineEnd}
    (documents : fileDocumentation [.line leading [small] ending] ≠ .ok none) :
    isDocumentation (.line leading [small] ending) = true := by
  obtain ⟨form, phrase, separator⟩ := small
  cases form with
  | imports names => exact absurd rfl documents
  | featureImport => exact absurd rfl documents
  | other => exact absurd rfl documents
  | literals pieces =>
      match pieces with
      | [] => rfl
      | [piece] =>
          show (!piece.formatted) = true
          by_cases formatted : piece.formatted = true
          · apply absurd _ documents
            simp [fileDocumentation, Suite.documentation, Suite.firstSmall?, Source.runValue,
              formatted]
            rfl
          · simp [formatted]
      | _ :: _ :: _ => rfl

/-- The statement is a line of several simple statements. -/
def SharesLine : Statement → Prop
  | .line _ parts _ => 2 ≤ parts.length
  | _ => False

/-- The import, which the file has not, goes in front of its documentation: this shares its line
with other statements, and nothing in the file switches language features. -/
structure Displaced (path localName : String) (body : List Statement) : Prop where
  absent : ¬ ∃ statement ∈ body, Imports path localName statement
  plain : ∀ statement ∈ body, switchesFeatures statement = false
  documents : fileDocumentation body ≠ .ok none
  shared : ∀ statement ∈ body.head?, SharesLine statement

theorem featureFront_eq_nil_iff :
    featureFront body = [] ↔ ∀ statement ∈ body, switchesFeatures statement = false := by
  simp [featureFront, List.rdropWhile_eq_nil_iff]

/-- A file with documentation has nothing in front of the import exactly if its documentation
shares its line and nothing switches language features. -/
theorem take_leadingCount_eq_nil_iff (documents : fileDocumentation body ≠ .ok none) :
    body.take (leadingCount body) = [] ↔
      (∀ statement ∈ body, switchesFeatures statement = false) ∧
        ∀ statement ∈ body.head?, SharesLine statement := by
  rw [take_leadingCount]
  cases body with
  | nil => exact absurd rfl documents
  | cons first rest =>
      by_cases front : featureFront (first :: rest) = []
      · rw [if_pos front]
        have plain := featureFront_eq_nil_iff.1 front
        rw [fileDocumentation_cons] at documents
        have shared : SharesLine first ↔ isDocumentation first = false := by
          cases first with
          | function head signature suite => exact absurd rfl documents
          | compound head header suite clauses => exact absurd rfl documents
          | line leading parts ending =>
              match parts with
              | [] => exact absurd rfl documents
              | [small] =>
                  rw [isDocumentation_of_documents documents]
                  simp [SharesLine]
              | _ :: _ :: _ => simp [SharesLine, isDocumentation, simpleParts]
        have head : (first :: rest).head?.any isDocumentation = isDocumentation first := rfl
        by_cases known : isDocumentation first = true
        · rw [if_pos (head.trans known)]
          simp [shared, known]
        · have unknown := Bool.eq_false_iff.2 known
          rw [if_neg (by simp [unknown])]
          exact iff_of_true rfl ⟨plain, by simpa [shared] using unknown⟩
      · rw [if_neg front]
        have switched := mt featureFront_eq_nil_iff.2 front
        simp only [front, switched, false_and]

/-- **The import takes the documentation of a file away exactly if it goes in front of it.** -/
theorem fileDocumentation_withRuntimeImport_iff :
    fileDocumentation (withRuntimeImport path localName body) = fileDocumentation body ↔
      ¬ Displaced path localName body := by
  by_cases there : ∃ statement ∈ body, Imports path localName statement
  · rw [withRuntimeImport_of_imports there]
    exact iff_of_true rfl fun displaced => displaced.absent there
  · have whole := List.take_append_drop (leadingCount body) body
    rw [withRuntimeImport_of_absent there]
    cases front : body.take (leadingCount body) with
    | nil =>
        rw [List.nil_append, fileDocumentation_runtimeImport]
        constructor
        · intro same displaced
          exact displaced.documents same.symm
        · intro kept
          by_contra documents
          have documents := Ne.symm documents
          obtain ⟨plain, shared⟩ := (take_leadingCount_eq_nil_iff documents).1 front
          exact kept ⟨there, plain, documents, shared⟩
    | cons first others =>
        rw [front, List.cons_append] at whole
        refine iff_of_true ?_ fun displaced => ?_
        · rw [List.cons_append, ← whole, fileDocumentation_cons, ← fileDocumentation_cons first]
        · have none := (take_leadingCount_eq_nil_iff displaced.documents).2
            ⟨displaced.plain, displaced.shared⟩
          rw [front] at none
          cases none

/-! ## The import among the statements -/

/-- **The import of the runtime is added once, and behind whatever must come first.** A file that
has it stays as it is, and so does one to which it was added. Otherwise it goes between two
statements, behind all that switch language features. The documentation of the file stays what it
was, unless it shares its line with other statements, nothing in the file switches language
features, and the import is missing. -/
theorem withRuntimeImport_placed (path localName : String) (body : List Statement) :
    (withRuntimeImport path localName body = body ↔
      ∃ statement ∈ body, Imports path localName statement) ∧
    (withRuntimeImport path localName body = body ∨
      ∃ front behind, body = front ++ behind ∧
        withRuntimeImport path localName body =
          front ++ runtimeImport path localName :: behind ∧
        ∀ statement ∈ behind, ∀ small ∈ simpleParts statement, small.form ≠ .featureImport) ∧
    withRuntimeImport path localName (withRuntimeImport path localName body) =
      withRuntimeImport path localName body ∧
    (fileDocumentation (withRuntimeImport path localName body) = fileDocumentation body ↔
      ¬ Displaced path localName body) := by
  refine ⟨⟨?_, withRuntimeImport_of_imports⟩, ?_, withRuntimeImport_idempotent path localName body,
    fileDocumentation_withRuntimeImport_iff⟩
  · intro unchanged
    by_contra absent
    have longer := congrArg List.length (withRuntimeImport_of_absent absent)
    rw [unchanged, List.length_append, List.length_cons, List.length_take, List.length_drop]
      at longer
    omega
  · by_cases there : ∃ statement ∈ body, Imports path localName statement
    · exact Or.inl (withRuntimeImport_of_imports there)
    · refine Or.inr ⟨body.take (leadingCount body), body.drop (leadingCount body),
        (List.take_append_drop _ _).symm, withRuntimeImport_of_absent there, ?_⟩
      intro statement member
      exact switchesFeatures_eq_false_iff.1 (switchesFeatures_of_mem_drop member)

/-- A file whose documentation shares its line with another statement. -/
def sharedLine : String := "'d'; x = 1\n"

/-- The import goes in front of the documentation, so that there is none afterwards. -/
theorem sharedLine_displaced :
    ∃ file, Module.ofText sharedLine = .ok file ∧
      fileDocumentation file.body = .ok (some (Points.ofString "d")) ∧
      fileDocumentation (withRuntimeImport "r" "r" file.body) = .ok none := by
  have evaluated : succeedsWith (Module.ofText sharedLine) (fun file =>
      decide ((Suite.block .plain none file.body []).firstSmall?.map Small.form =
          some (.literals [⟨"'d'", false⟩]) ∧
        (Suite.block .plain none (withRuntimeImport "r" "r" file.body) []).firstSmall?.map
          Small.form = some (.imports [⟨"r", some "r"⟩]))) = true := by
    decide +kernel
  obtain ⟨file, read, passed⟩ := exists_of_succeedsWith evaluated
  obtain ⟨literals, imports⟩ := of_decide_eq_true passed
  refine ⟨file, read, ?_, ?_⟩
  · unfold fileDocumentation Suite.documentation
    rw [literals]
    simp only [Source.runValue]
    decide +kernel
  · unfold fileDocumentation Suite.documentation
    rw [imports]

end ModuleGlue.Expansion
