import MemberDocs.Collection.Discovery
import MemberDocs.Collection.Merge
import MemberDocs.CommandLine.Arguments
import MemberDocs.CommandLine.Convert
import MemberDocs.CommandLine.Generate
import MemberDocs.CommandLine.Grammar
import MemberDocs.CommandLine.Program
import MemberDocs.CommandLine.Session
import MemberDocs.CommandLine.Usage
import MemberDocs.Config.Load
import MemberDocs.Config.Value
import MemberDocs.Doc.Builder
import MemberDocs.Doc.Node
import MemberDocs.FrontMatter.Block
import MemberDocs.FrontMatter.Options
import MemberDocs.FrontMatter.Search
import MemberDocs.Generation.Failure
import MemberDocs.Generation.FrontMatter
import MemberDocs.Generation.Journal
import MemberDocs.Generation.Run
import MemberDocs.Generation.Settings
import MemberDocs.Main
import MemberDocs.Markdown.CodeBlock
import MemberDocs.Markdown.Conversion
import MemberDocs.Markdown.Render
import MemberDocs.Markdown.Rule
import MemberDocs.Markdown.Template
import MemberDocs.Member.Identifier
import MemberDocs.Number.Binary64
import MemberDocs.Number.Literal
import MemberDocs.Number.Shortest
import MemberDocs.Number.Timestamp
import MemberDocs.Proofs.Association
import MemberDocs.Proofs.Markdown.Reach
import MemberDocs.Proofs.Markdown.Step
import MemberDocs.Proofs.Markdown.UnknownTags
import MemberDocs.Text.Base64
import MemberDocs.Text.Blank
import MemberDocs.Text.CaseTable
import MemberDocs.Text.DigitTable
import MemberDocs.Text.LineBreak
import MemberDocs.Text.Lowercase
import MemberDocs.Text.PrintableTable
import MemberDocs.Text.Quoted
import MemberDocs.Text.Replace
import MemberDocs.Text.Utf8
import MemberDocs.Volume.Basic
import MemberDocs.Volume.Changes
import MemberDocs.Volume.Path
import MemberDocs.Xml.CodePage
import MemberDocs.Xml.CodePageTable
import MemberDocs.Xml.Content
import MemberDocs.Xml.Declaration
import MemberDocs.Xml.Doctype.Grammar
import MemberDocs.Xml.Doctype.Subset
import MemberDocs.Xml.Doctype.Token
import MemberDocs.Xml.Document
import MemberDocs.Xml.Encoding
import MemberDocs.Xml.Entity
import MemberDocs.Xml.Event
import MemberDocs.Xml.Fault
import MemberDocs.Xml.NameTable
import MemberDocs.Xml.Place
import MemberDocs.Xml.Scheme
import MemberDocs.Xml.Token
import MemberDocs.Yaml.BlockText
import MemberDocs.Yaml.Cursor
import MemberDocs.Yaml.Data
import MemberDocs.Yaml.Fault
import MemberDocs.Yaml.Graph
import MemberDocs.Yaml.Lexer
import MemberDocs.Yaml.Plain
import MemberDocs.Yaml.Property
import MemberDocs.Yaml.Quotation
import MemberDocs.Yaml.Scalar
import MemberDocs.Yaml.Tag
import MemberDocs.Yaml.Token
import MemberDocs.Proofs.Markdown.Lookup
import MemberDocs.Proofs.Markdown.Outline
import MemberDocs.Proofs.Markdown.ShownTexts
import MemberDocs.Proofs.Markdown.Members
import MemberDocs.Proofs.Volume.Route
import MemberDocs.Proofs.Volume.Evolution
import MemberDocs.Proofs.Volume.Directories
import MemberDocs.Proofs.Volume.Names
import MemberDocs.Proofs.Collection.Discovery
import MemberDocs.Proofs.Generation.Journal
import MemberDocs.Proofs.Generation.Progress
import MemberDocs.Proofs.Collection.Merge
import MemberDocs.Proofs.Generation.Stages
import MemberDocs.Proofs.Generation.MergedOutput
import MemberDocs.Proofs.Generation.Completion
import MemberDocs.Proofs.Generation.Sequence
import MemberDocs.Proofs.Generation.Renderings
import MemberDocs.Proofs.Generation.Repetition
import MemberDocs.Proofs.Generation.EffectiveSettings
import MemberDocs.Proofs.Generation.Regeneration
import MemberDocs.Proofs.Generation.Escapes
import MemberDocs.Proofs.Generation.Refusals
import MemberDocs.Proofs.Generation.Frame
import MemberDocs.Proofs.Generation.Policies
import MemberDocs.Proofs.CommandLine.Outcomes
import MemberDocs.Proofs.Doc.Placement
import MemberDocs.Proofs.Markdown.Placement
import MemberDocs.Proofs.Xml.Encoding
import MemberDocs.Proofs.Xml.Spelling
import MemberDocs.Proofs.Xml.Readable
import MemberDocs.Proofs.Xml.Layout
import MemberDocs.Proofs.Xml.Reading
import MemberDocs.Proofs.Xml.Prolog
import MemberDocs.Proofs.Xml.RoundTrip
import MemberDocs.Proofs.Xml.ContentModels
import MemberDocs.Proofs.FrontMatter.Search
import MemberDocs.Proofs.FrontMatter.FirstBlock
import MemberDocs.Proofs.FrontMatter.Blocks
import MemberDocs.Proofs.CommandLine.Precedence
import MemberDocs.Proofs.Text.Letters
import MemberDocs.Proofs.Yaml.Words
import MemberDocs.Proofs.Yaml.Lines
import MemberDocs.Proofs.Yaml.Mapping
import MemberDocs.Proofs.Text.Utf8
import MemberDocs.Proofs.Text.Lines
import MemberDocs.Proofs.FrontMatter.Lines
import MemberDocs.Proofs.Xml.Places
import MemberDocs.Proofs.Doc.Building
import MemberDocs.Proofs.Xml.Scanned
import MemberDocs.Proofs.Xml.Events
import MemberDocs.Proofs.Xml.TextSources
import MemberDocs.Proofs.Markdown.ReportedPlaces
import MemberDocs.Proofs.Xml.Lexemes
import MemberDocs.Proofs.CommandLine.Sources
import MemberDocs.Proofs.Volume.Obstruction
import MemberDocs.Proofs.Volume.Spelling
import MemberDocs.Proofs.Collection.Outcomes
import MemberDocs.Proofs.Collection.Spelling
import MemberDocs.Proofs.Collection.Listing
import MemberDocs.Proofs.Markdown.Agreement
import MemberDocs.Proofs.Markdown.ParameterTables
import MemberDocs.Proofs.CommandLine.LogFile
import MemberDocs.Proofs.Markdown.CodeBlocks
import MemberDocs.Proofs.Member.Labels
import MemberDocs.Proofs.Markdown.Comparison
import MemberDocs.Proofs.Doc.Renaming
import MemberDocs.Proofs.Markdown.Aliases
import MemberDocs.Proofs.Markdown.RuleTables
import MemberDocs.Proofs.Markdown.Frames
import MemberDocs.Proofs.Markdown.Contexts
import MemberDocs.Proofs.Markdown.Headings
import MemberDocs.Proofs.Doc.Pieces
import MemberDocs.Proofs.Generation.Reordering
import MemberDocs.Proofs.Generation.Growth
import MemberDocs.Proofs.CommandLine.Handlers
import MemberDocs.Proofs.CommandLine.Processes
import MemberDocs.Proofs.Config.Loading
import MemberDocs.Proofs.Markdown.ReferenceLabels
import MemberDocs.Proofs.Markdown.Formatting
import MemberDocs.Proofs.CommandLine.ArgumentClasses
import MemberDocs.Proofs.CommandLine.Scopes
import MemberDocs.Proofs.CommandLine.LoggingOptions
import MemberDocs.Proofs.Volume.Texts
import MemberDocs.Proofs.Generation.ReportedFiles
import MemberDocs.Proofs.CommandLine.Reports
import MemberDocs.Proofs.Text.Runs
import MemberDocs.Proofs.Markdown.CollapsedTexts
