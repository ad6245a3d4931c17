import SqlSchema.Main
import SqlSchema.Value.Record
import SqlSchema.Value.Stored
import SqlSchema.Proofs.Lexemes
import SqlSchema.Proofs.Pieces
import SqlSchema.Proofs.Grammar
import SqlSchema.Proofs.Nesting
import SqlSchema.Proofs.Resolution
import SqlSchema.Proofs.TypeReading
import SqlSchema.Proofs.ColumnReading
import SqlSchema.Proofs.Places
import SqlSchema.Proofs.ColumnPlaces
import SqlSchema.Proofs.Sentences
import SqlSchema.Proofs.Faults
import SqlSchema.Proofs.SyntaxErrors
import SqlSchema.Proofs.Commas
import SqlSchema.Proofs.Acceptance
import SqlSchema.Proofs.Written
import SqlSchema.Proofs.Parts
import SqlSchema.Proofs.RoundTrip
import SqlSchema.Proofs.SchemaRoundTrip
import SqlSchema.Proofs.DistinctTexts
import SqlSchema.Proofs.Conformance
import SqlSchema.Proofs.Classifiers
import SqlSchema.Proofs.Rejections
import SqlSchema.Proofs.CommandReading
import SqlSchema.Proofs.Semicolons
import SqlSchema.Proofs.JoinCommand
import SqlSchema.Proofs.Joins
import SqlSchema.Proofs.Mismatches
import SqlSchema.Proofs.Determination
import SqlSchema.Proofs.Lookups
import SqlSchema.Proofs.RecordLaws
import SqlSchema.Proofs.Flaws
import SqlSchema.Proofs.FlawReading
import SqlSchema.Proofs.FirstFlaws
import SqlSchema.Proofs.SemanticErrors
import SqlSchema.Proofs.Observation
import SqlSchema.Proofs.CanonicalForms
import SqlSchema.Proofs.Sessions
import SqlSchema.Proofs.Progress
import SqlSchema.Proofs.Numbering
import SqlSchema.Proofs.EqualValues
import SqlSchema.Proofs.DecimalTexts
import SqlSchema.Proofs.NameTokens
import SqlSchema.Proofs.ColumnLists
import SqlSchema.Proofs.JoinLookups
import SqlSchema.Proofs.Scopes
import SqlSchema.Proofs.RejectionLog
import SqlSchema.Proofs.NumericLevels
import SqlSchema.Proofs.EscapedNames
import SqlSchema.Proofs.Descents
import SqlSchema.Proofs.TypeDescents
import SqlSchema.Proofs.ParserSafety
