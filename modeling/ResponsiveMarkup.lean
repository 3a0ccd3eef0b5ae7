import ResponsiveMarkup.Compile.History
import ResponsiveMarkup.Compile.Options
import ResponsiveMarkup.Compile.Run
import ResponsiveMarkup.Contract.Basic
import ResponsiveMarkup.Contract.LearnedRules
import ResponsiveMarkup.Contract.Nesting
import ResponsiveMarkup.Contract.Pipeline
import ResponsiveMarkup.Contract.Structure
import ResponsiveMarkup.Contract.Typography
import ResponsiveMarkup.Design.Decode
import ResponsiveMarkup.Design.NameMap
import ResponsiveMarkup.Design.Node
import ResponsiveMarkup.Design.Validation
import ResponsiveMarkup.Failure
import ResponsiveMarkup.Finalize
import ResponsiveMarkup.Html.Builder
import ResponsiveMarkup.Html.Classes
import ResponsiveMarkup.Html.Document
import ResponsiveMarkup.Html.Insertion
import ResponsiveMarkup.Html.Lexer
import ResponsiveMarkup.Html.OldDoctype
import ResponsiveMarkup.Html.Reference
import ResponsiveMarkup.Html.ReferenceTable
import ResponsiveMarkup.Html.Summary
import ResponsiveMarkup.Html.Token
import ResponsiveMarkup.Html.Tree
import ResponsiveMarkup.Json.Fault
import ResponsiveMarkup.Json.Number
import ResponsiveMarkup.Json.Printer
import ResponsiveMarkup.Json.Reader
import ResponsiveMarkup.Json.Schema
import ResponsiveMarkup.Json.Skip
import ResponsiveMarkup.Json.Value
import ResponsiveMarkup.Markup.ClassList
import ResponsiveMarkup.Markup.Element
import ResponsiveMarkup.Markup.Escape
import ResponsiveMarkup.Markup.Names
import ResponsiveMarkup.Markup.Piece
import ResponsiveMarkup.Markup.Scanner
import ResponsiveMarkup.Markup.Splice
import ResponsiveMarkup.Markup.Token
import ResponsiveMarkup.Merge.Fragments
import ResponsiveMarkup.Merge.Plan
import ResponsiveMarkup.Merge.Viewport
import ResponsiveMarkup.Number.Binary64
import ResponsiveMarkup.Number.Notation
import ResponsiveMarkup.Number.Plain
import ResponsiveMarkup.Number.Ratio
import ResponsiveMarkup.Number.Rounding
import ResponsiveMarkup.Number.Shortest
import ResponsiveMarkup.Proofs.Compile.ClassTokens
import ResponsiveMarkup.Proofs.Compile.Finite
import ResponsiveMarkup.Proofs.Compile.Hidden
import ResponsiveMarkup.Proofs.Compile.Interactive
import ResponsiveMarkup.Proofs.Compile.PlannedEdits
import ResponsiveMarkup.Proofs.Compile.Repair
import ResponsiveMarkup.Proofs.Compile.ReportMode
import ResponsiveMarkup.Proofs.Compile.SharedRules
import ResponsiveMarkup.Proofs.Compile.Sound
import ResponsiveMarkup.Proofs.Contract.ClassRules
import ResponsiveMarkup.Proofs.Contract.CleanTokens
import ResponsiveMarkup.Proofs.Contract.Demotion
import ResponsiveMarkup.Proofs.Contract.FontTokens
import ResponsiveMarkup.Proofs.Contract.InnerLinks
import ResponsiveMarkup.Proofs.Contract.LeftOpen
import ResponsiveMarkup.Proofs.Contract.MalformedShape
import ResponsiveMarkup.Proofs.Contract.Nesting
import ResponsiveMarkup.Proofs.Contract.Pipeline
import ResponsiveMarkup.Proofs.Contract.Runs
import ResponsiveMarkup.Proofs.Contract.Substitution
import ResponsiveMarkup.Proofs.Design.PreOrder
import ResponsiveMarkup.Proofs.Design.Slots
import ResponsiveMarkup.Proofs.Design.Walk
import ResponsiveMarkup.Proofs.Markup.ClassValue
import ResponsiveMarkup.Proofs.Markup.Comments
import ResponsiveMarkup.Proofs.Markup.Contents
import ResponsiveMarkup.Proofs.Markup.Escape
import ResponsiveMarkup.Proofs.Markup.Grammar
import ResponsiveMarkup.Proofs.Markup.Lossless
import ResponsiveMarkup.Proofs.Markup.Regular
import ResponsiveMarkup.Proofs.Markup.Replacement
import ResponsiveMarkup.Proofs.Markup.Resynchronized
import ResponsiveMarkup.Proofs.Markup.Rewording
import ResponsiveMarkup.Proofs.Markup.Simultaneous
import ResponsiveMarkup.Proofs.Markup.TextEnd
import ResponsiveMarkup.Proofs.Markup.Unescape
import ResponsiveMarkup.Proofs.Merge.Cascade
import ResponsiveMarkup.Proofs.Merge.ClassUnion
import ResponsiveMarkup.Proofs.Merge.MalformedTokens
import ResponsiveMarkup.Proofs.Merge.Remerge
import ResponsiveMarkup.Proofs.Merge.Statistics
import ResponsiveMarkup.Proofs.Merge.Structure
import ResponsiveMarkup.Proofs.Number.Ratio
import ResponsiveMarkup.Proofs.Render.Identity
import ResponsiveMarkup.Proofs.Render.Labels
import ResponsiveMarkup.Proofs.Render.OpenTags
import ResponsiveMarkup.Proofs.Render.ReadBack
import ResponsiveMarkup.Proofs.Render.SlotMarkers
import ResponsiveMarkup.Proofs.Render.Tags
import ResponsiveMarkup.Proofs.Render.Tokens
import ResponsiveMarkup.Proofs.Render.Walk
import ResponsiveMarkup.Proofs.Render.Written
import ResponsiveMarkup.Proofs.Rules.Learning
import ResponsiveMarkup.Proofs.Rules.Multiset
import ResponsiveMarkup.Proofs.Rules.SavedTable
import ResponsiveMarkup.Proofs.Rules.Strongest
import ResponsiveMarkup.Proofs.Style.Atomic
import ResponsiveMarkup.Proofs.Style.Geometry
import ResponsiveMarkup.Proofs.Style.Harmless
import ResponsiveMarkup.Proofs.Style.Tokens
import ResponsiveMarkup.Proofs.Text.Collapse
import ResponsiveMarkup.Proofs.Text.Cutting
import ResponsiveMarkup.Proofs.Text.Slices
import ResponsiveMarkup.Proofs.Text.Stretches
import ResponsiveMarkup.Proofs.Text.Words
import ResponsiveMarkup.Render.Decode
import ResponsiveMarkup.Render.Markup
import ResponsiveMarkup.Render.Tag
import ResponsiveMarkup.Rules.Cache
import ResponsiveMarkup.Rules.EditLog
import ResponsiveMarkup.Rules.Fingerprint
import ResponsiveMarkup.Rules.Mining
import ResponsiveMarkup.Rules.Store
import ResponsiveMarkup.Rules.Table
import ResponsiveMarkup.Slot
import ResponsiveMarkup.Storage
import ResponsiveMarkup.Style.Box
import ResponsiveMarkup.Style.Decoration
import ResponsiveMarkup.Style.Number
import ResponsiveMarkup.Style.Typeface
import ResponsiveMarkup.Text.Basic
import ResponsiveMarkup.Text.CaseTable
import ResponsiveMarkup.Text.Lines
import ResponsiveMarkup.Text.Lowercase
import ResponsiveMarkup.Text.Quoted
import ResponsiveMarkup.Text.Search
import ResponsiveMarkup.Text.Utf8
