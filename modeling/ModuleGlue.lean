import ModuleGlue.Conversion
import ModuleGlue.Main
import ModuleGlue.Proofs.Command.Agreement
import ModuleGlue.Proofs.Directive.Coverage
import ModuleGlue.Proofs.Directive.Rendering
import ModuleGlue.Proofs.Expansion.ArgumentPlaces
import ModuleGlue.Proofs.Expansion.LegacyRecords
import ModuleGlue.Proofs.Expansion.Replacement
import ModuleGlue.Proofs.Expansion.Course
import ModuleGlue.Proofs.Expansion.FirstError
import ModuleGlue.Proofs.Expansion.Written
import ModuleGlue.Proofs.Expansion.Locality
import ModuleGlue.Proofs.Expansion.Nesting
import ModuleGlue.Proofs.Expansion.Repetition
import ModuleGlue.Proofs.Source.Scanning
import ModuleGlue.Proofs.Source.CallReading
import ModuleGlue.Proofs.Expansion.WrapperCall
import ModuleGlue.Proofs.Source.FunctionNames
import ModuleGlue.Proofs.Expansion.Escapes
import ModuleGlue.Proofs.Directive.NameSpellings
import ModuleGlue.Proofs.Directive.LineEnds
import ModuleGlue.Proofs.Directive.Acceptance
import ModuleGlue.Proofs.Directive.FirstOffender
import ModuleGlue.Proofs.Directive.Changes
import ModuleGlue.Proofs.Expansion.RecordHistory
import ModuleGlue.Proofs.Directive.Chunks
import ModuleGlue.Proofs.Expansion.Arrangements
import ModuleGlue.Proofs.Directive.PathTexts
import ModuleGlue.Proofs.Directive.NameForms
import ModuleGlue.Proofs.Expansion.ImportPlacement
import ModuleGlue.Proofs.Expansion.Partition
import ModuleGlue.Proofs.Expansion.Placement
import ModuleGlue.Proofs.Text.QuotedValue
import ModuleGlue.Proofs.Directive.QuotedTexts
import ModuleGlue.Proofs.Source.TextReading
import ModuleGlue.Proofs.Expansion.EntryPointCode
import ModuleGlue.Proofs.Source.LineReading
import ModuleGlue.Proofs.Expansion.EntryPointLines
import ModuleGlue.Proofs.Source.LineNesting
import ModuleGlue.Proofs.Expansion.EntryPointReading
import ModuleGlue.Proofs.Expansion.GeneratedTexts
import ModuleGlue.Proofs.Expansion.ModuleReading
import ModuleGlue.Proofs.Expansion.EntryPointScopes
import ModuleGlue.Proofs.Expansion.WrapperScopes
import ModuleGlue.Proofs.Settings.Endings
import ModuleGlue.Proofs.Directive.WrittenPaths
import ModuleGlue.Proofs.Expansion.ModulePaths
import ModuleGlue.Proofs.Console.ShownTexts
import ModuleGlue.Proofs.Console.EscapedPieces
import ModuleGlue.Proofs.Command.Diagnostics
