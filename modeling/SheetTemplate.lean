import SheetTemplate.Book.Sheet
import SheetTemplate.Book.Style
import SheetTemplate.Book.Workbook
import SheetTemplate.Cell.Area
import SheetTemplate.Cell.Ref
import SheetTemplate.CommandLine.Arguments
import SheetTemplate.CommandLine.Job
import SheetTemplate.Data.Csv
import SheetTemplate.Data.Json
import SheetTemplate.Data.JsonText
import SheetTemplate.Error
import SheetTemplate.Expression.Cel
import SheetTemplate.Expression.CelText
import SheetTemplate.Expression.CelValue
import SheetTemplate.Expression.Grammar
import SheetTemplate.Expression.Rhai
import SheetTemplate.Expression.RhaiText
import SheetTemplate.Expression.RhaiValue
import SheetTemplate.Expression.Syntax
import SheetTemplate.Files.Path
import SheetTemplate.Files.Tree
import SheetTemplate.Formula.Basic
import SheetTemplate.Formula.Spec
import SheetTemplate.Formula.Tag
import SheetTemplate.Grid
import SheetTemplate.Journal
import SheetTemplate.Languages
import SheetTemplate.Loader
import SheetTemplate.Native.References
import SheetTemplate.Number.Binary
import SheetTemplate.Number.Decimal
import SheetTemplate.Number.Power
import SheetTemplate.Number.Reading
import SheetTemplate.Package.Archive
import SheetTemplate.Package.Bytes
import SheetTemplate.Package.Inflate
import SheetTemplate.Preview
import SheetTemplate.Proofs.Insertion
import SheetTemplate.Proofs.Layout
import SheetTemplate.Proofs.Slots
import SheetTemplate.Proofs.Writing
import SheetTemplate.Registry
import SheetTemplate.Render.Book
import SheetTemplate.Render.Merges
import SheetTemplate.Render.Pass
import SheetTemplate.Render.Value
import SheetTemplate.Script.Builtin
import SheetTemplate.Script.Evaluation
import SheetTemplate.Script.Grammar
import SheetTemplate.Script.Language
import SheetTemplate.Script.Lexeme
import SheetTemplate.Script.NumberText
import SheetTemplate.Script.Property
import SheetTemplate.Script.Realm
import SheetTemplate.Script.Syntax
import SheetTemplate.Settings
import SheetTemplate.Settings.Reading
import SheetTemplate.Shape
import SheetTemplate.Source.Literal
import SheetTemplate.Source.Operator
import SheetTemplate.Source.Token
import SheetTemplate.Text.Blank
import SheetTemplate.Text.Identifier
import SheetTemplate.Text.Lowercase
import SheetTemplate.Text.Plain
import SheetTemplate.Text.Quoted
import SheetTemplate.Text.Ranges
import SheetTemplate.Text.Uppercase
import SheetTemplate.Text.Within
import SheetTemplate.Text.Word
import SheetTemplate.Xlsx.CellFormat
import SheetTemplate.Xlsx.CellStyles
import SheetTemplate.Xlsx.Cells
import SheetTemplate.Xlsx.Fields
import SheetTemplate.Xlsx.Formulas
import SheetTemplate.Xlsx.Outline
import SheetTemplate.Xlsx.Reading
import SheetTemplate.Xlsx.Stored
import SheetTemplate.Xlsx.StyleTable
import SheetTemplate.Xlsx.Tables
import SheetTemplate.Xlsx.Writing
import SheetTemplate.Xml.Attribute
import SheetTemplate.Xml.Event
import SheetTemplate.Xml.Token
import SheetTemplate.Xml.Writing
import SheetTemplate.Main
import SheetTemplate.Proofs.Interning
import SheetTemplate.Proofs.Filling
import SheetTemplate.Proofs.Extent
import SheetTemplate.Proofs.MergeMemory
import SheetTemplate.Proofs.Traversal
import SheetTemplate.Proofs.Blocks
import SheetTemplate.Proofs.Answering
import SheetTemplate.Proofs.Progress
import SheetTemplate.Proofs.PassRun
import SheetTemplate.Proofs.BookRun
import SheetTemplate.Proofs.FinalLayout
import SheetTemplate.Proofs.EvaluationTrace
import SheetTemplate.Proofs.FailFast
import SheetTemplate.Proofs.TrackedExtent
import SheetTemplate.Proofs.CellByCell
import SheetTemplate.Proofs.Sweep
import SheetTemplate.Proofs.Termination
import SheetTemplate.Proofs.SheetInsertion
import SheetTemplate.Proofs.Rescan
import SheetTemplate.Proofs.Occurrences
import SheetTemplate.Proofs.Qualified
import SheetTemplate.Proofs.Relocation
import SheetTemplate.Proofs.InsertionOrder
import SheetTemplate.Proofs.NativeFormulas
import SheetTemplate.Proofs.Rectangles
import SheetTemplate.Proofs.Styling
import SheetTemplate.Proofs.SpecGrammar
import SheetTemplate.Proofs.FormulaGrammar
import SheetTemplate.Proofs.Dispatch
import SheetTemplate.Proofs.Resolution
import SheetTemplate.Proofs.Walk
import SheetTemplate.Proofs.Shaping
import SheetTemplate.Proofs.SharedStyles
import SheetTemplate.Proofs.Failing
import SheetTemplate.Proofs.FilePlaces
import SheetTemplate.Proofs.AllOrNothing
import SheetTemplate.Proofs.ElementTree
import SheetTemplate.Proofs.StyleTree
import SheetTemplate.Proofs.StyleReading
import SheetTemplate.Proofs.TextBytes
import SheetTemplate.Proofs.MarkupTokens
import SheetTemplate.Proofs.MarkupValues
import SheetTemplate.Proofs.Packing
import SheetTemplate.Proofs.StoredStyles
import SheetTemplate.Proofs.StoredOutline
import SheetTemplate.Proofs.StoredTexts
import SheetTemplate.Proofs.Positions
import SheetTemplate.Proofs.Reloading
import SheetTemplate.Proofs.RoundTrip
import SheetTemplate.Proofs.ReferenceTexts
import SheetTemplate.Proofs.RangeTexts
import SheetTemplate.Proofs.QuotedNames
import SheetTemplate.Proofs.Directions
import SheetTemplate.Proofs.CanonicalSpecs
import SheetTemplate.Proofs.RestoredFonts
import SheetTemplate.Proofs.FolderContents
import SheetTemplate.Proofs.Lookups
import SheetTemplate.Proofs.FolderLoading
import SheetTemplate.Proofs.Delimiters
import SheetTemplate.Proofs.PreviewTables
import SheetTemplate.Proofs.SettingsReading
import SheetTemplate.Proofs.ConfiguredRegistry
import SheetTemplate.Proofs.DataBinding
import SheetTemplate.Proofs.FixedPlaces
import SheetTemplate.Proofs.ShownFormats
import SheetTemplate.Proofs.StableRounding
import SheetTemplate.Proofs.RenderedNumbers
import SheetTemplate.Proofs.CachedMerges
import SheetTemplate.Proofs.SequenceItems
import SheetTemplate.Proofs.NameFolding
import SheetTemplate.Proofs.DeclaredNames
import SheetTemplate.Proofs.DataConstants
import SheetTemplate.Proofs.OutputPaths
