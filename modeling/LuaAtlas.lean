import LuaAtlas.Answer.Build
import LuaAtlas.Answer.Outline
import LuaAtlas.Answer.Search
import LuaAtlas.Answer.Selector
import LuaAtlas.Answer.Symbols
import LuaAtlas.Builder
import LuaAtlas.Catalog.Basic
import LuaAtlas.Catalog.Index
import LuaAtlas.Catalog.Search
import LuaAtlas.Declaration.Basic
import LuaAtlas.Declaration.Scan
import LuaAtlas.Draft
import LuaAtlas.Failure
import LuaAtlas.Issue
import LuaAtlas.Json.Basic
import LuaAtlas.Json.Coercion
import LuaAtlas.Json.Printer
import LuaAtlas.Line.Marker
import LuaAtlas.Line.Tag
import LuaAtlas.Lineage
import LuaAtlas.Literal
import LuaAtlas.Name
import LuaAtlas.Pattern.Basic
import LuaAtlas.Pattern.Casing
import LuaAtlas.Pattern.Escape
import LuaAtlas.Pattern.Fault
import LuaAtlas.Pattern.Matching
import LuaAtlas.Pattern.Reading
import LuaAtlas.Pattern.Source
import LuaAtlas.Report
import LuaAtlas.Service.Call
import LuaAtlas.Service.Tool
import LuaAtlas.Shelf
import LuaAtlas.Source.FileTree
import LuaAtlas.Source.Path
import LuaAtlas.Source.Reading
import LuaAtlas.Summary
import LuaAtlas.Symbol.Basic
import LuaAtlas.Symbol.Kind
import LuaAtlas.Symbol.Table
import LuaAtlas.Text.Basic
import LuaAtlas.Text.Bracket
import LuaAtlas.Text.Decoding
import LuaAtlas.Text.Digit
import LuaAtlas.Text.Identifier
import LuaAtlas.Text.Integer
import LuaAtlas.Text.Lowercase
import LuaAtlas.Text.Printable
import LuaAtlas.Text.Quoted
import LuaAtlas.Text.Slice
import LuaAtlas.Text.WordChar
import LuaAtlas.TypeExpr.Cut
import LuaAtlas.TypeExpr.Form
import LuaAtlas.TypeExpr.Node
import LuaAtlas.TypeExpr.Reading
import LuaAtlas.Vocabulary
import LuaAtlas.Proofs.Text.Lines
import LuaAtlas.Proofs.Text.Naming
import LuaAtlas.Proofs.Text.Pairing
import LuaAtlas.Proofs.Text.Splitting
import LuaAtlas.Proofs.TypeExpr.Tree
import LuaAtlas.Proofs.TypeExpr.RoundTrip
import LuaAtlas.Proofs.TypeExpr.Nested
import LuaAtlas.Proofs.TypeExpr.Shape
import LuaAtlas.Proofs.TypeExpr.Chain
import LuaAtlas.Proofs.TypeExpr.Bracketing
import LuaAtlas.Proofs.Symbol.Index
import LuaAtlas.Proofs.Declaration.Dispatch
import LuaAtlas.Proofs.Declaration.Saying
import LuaAtlas.Proofs.Declaration.Entries
import LuaAtlas.Proofs.Declaration.Blocks
import LuaAtlas.Proofs.Declaration.Rows
import LuaAtlas.Proofs.Declaration.Tables
import LuaAtlas.Proofs.Symbol.Growth
import LuaAtlas.Proofs.Symbol.Extension
import LuaAtlas.Proofs.Symbol.Holding
import LuaAtlas.Proofs.Symbol.Resolving
import LuaAtlas.Proofs.Symbol.Facts
import LuaAtlas.Proofs.Draft.Entering
import LuaAtlas.Proofs.Draft.Collecting
import LuaAtlas.Proofs.Draft.Step
import LuaAtlas.Proofs.Draft.Filling
import LuaAtlas.Proofs.Draft.TypeReading
import LuaAtlas.Proofs.Declaration.Annotations
import LuaAtlas.Proofs.Declaration.Routines
import LuaAtlas.Proofs.Draft.Routine
import LuaAtlas.Proofs.Draft.Telling
import LuaAtlas.Proofs.Draft.Balance
import LuaAtlas.Proofs.Catalog.Declared
import LuaAtlas.Proofs.Declaration.Extent
import LuaAtlas.Proofs.Catalog.Appending
import LuaAtlas.Proofs.Draft.Reporting
import LuaAtlas.Proofs.Draft.Conflicts
import LuaAtlas.Proofs.Catalog.Numbering
import LuaAtlas.Proofs.Catalog.References
import LuaAtlas.Proofs.Catalog.Known
import LuaAtlas.Proofs.Catalog.Lookup
import LuaAtlas.Proofs.Catalog.Resolution
import LuaAtlas.Proofs.Catalog.ByName
import LuaAtlas.Proofs.Catalog.Mentions
import LuaAtlas.Proofs.Catalog.FileOrder
import LuaAtlas.Proofs.Catalog.Ranges
import LuaAtlas.Proofs.Catalog.Links
import LuaAtlas.Proofs.Catalog.Parts
import LuaAtlas.Proofs.Catalog.Accounted
import LuaAtlas.Proofs.Catalog.Outcomes
import LuaAtlas.Proofs.Service.Run
import LuaAtlas.Proofs.Draft.Attribution
import LuaAtlas.Proofs.TypeExpr.Cutting
import LuaAtlas.Proofs.TypeExpr.Described
import LuaAtlas.Proofs.TypeExpr.ReturnLists
import LuaAtlas.Proofs.Declaration.TypeTags
import LuaAtlas.Proofs.Catalog.Enumerations
import LuaAtlas.Proofs.Catalog.BitFlags
import LuaAtlas.Proofs.Catalog.StringValues
import LuaAtlas.Proofs.Catalog.AliasOptions
import LuaAtlas.Proofs.Catalog.Ranking
import LuaAtlas.Proofs.Catalog.TaggedTypes
import LuaAtlas.Proofs.Lineage.Ancestors
import LuaAtlas.Proofs.Lineage.Traversal
import LuaAtlas.Proofs.Lineage.Forest
import LuaAtlas.Proofs.Lineage.Position
import LuaAtlas.Proofs.Answer.ClassTree
import LuaAtlas.Proofs.Line.Markers
import LuaAtlas.Proofs.Answer.NamedRoot
import LuaAtlas.Proofs.Text.TopLevel
import LuaAtlas.Proofs.TypeExpr.Front
import LuaAtlas.Proofs.Text.Numerals
import LuaAtlas.Proofs.Answer.FileOutline
