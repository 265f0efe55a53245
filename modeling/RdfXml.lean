import RdfXml.Chunks
import RdfXml.Collector
import RdfXml.CommandLine.Arguments
import RdfXml.CommandLine.FileReport
import RdfXml.CommandLine.FileTree
import RdfXml.CommandLine.LogFilter
import RdfXml.CommandLine.Report
import RdfXml.Domain.Direction
import RdfXml.Domain.Disallowed
import RdfXml.Domain.Joiner
import RdfXml.Domain.Label
import RdfXml.Domain.Mapping
import RdfXml.Domain.MappingTable
import RdfXml.Domain.Name
import RdfXml.Domain.Punycode
import RdfXml.Grammar.Attributes
import RdfXml.Grammar.Frame
import RdfXml.Grammar.Machine
import RdfXml.Iri.Characters
import RdfXml.Iri.Host
import RdfXml.Iri.Parts
import RdfXml.Iri.Relative
import RdfXml.Iri.Resolution
import RdfXml.Log
import RdfXml.Main
import RdfXml.Options
import RdfXml.Parser
import RdfXml.Proofs.Collector
import RdfXml.Proofs.CommandLine.BlankNodes
import RdfXml.Proofs.CommandLine.Blocks
import RdfXml.Proofs.CommandLine.Numbering
import RdfXml.Proofs.Grammar.AttributeOrder
import RdfXml.Proofs.Grammar.Frames
import RdfXml.Proofs.Grammar.Inheritance
import RdfXml.Proofs.Grammar.Issuing
import RdfXml.Proofs.Grammar.Naming
import RdfXml.Proofs.Grammar.Objects
import RdfXml.Proofs.Grammar.Origins
import RdfXml.Proofs.Grammar.Prefixes
import RdfXml.Proofs.Grammar.References
import RdfXml.Proofs.Grammar.Run
import RdfXml.Proofs.Grammar.Signals
import RdfXml.Proofs.Grammar.Simulation
import RdfXml.Proofs.Grammar.Sites
import RdfXml.Proofs.Grammar.Subtrees
import RdfXml.Proofs.Grammar.Supply
import RdfXml.Proofs.Grammar.Tree
import RdfXml.Proofs.Iri.Absolute
import RdfXml.Proofs.Iri.Characters
import RdfXml.Proofs.Iri.Fragment
import RdfXml.Proofs.Parser.AttributeOrder
import RdfXml.Proofs.Parser.ByteOrderMark
import RdfXml.Proofs.Parser.Collections
import RdfXml.Proofs.Parser.Containers
import RdfXml.Proofs.Parser.CutIndependence
import RdfXml.Proofs.Parser.Frames
import RdfXml.Proofs.Parser.Inheritance
import RdfXml.Proofs.Parser.Lifecycle
import RdfXml.Proofs.Parser.Lines
import RdfXml.Proofs.Parser.Naming
import RdfXml.Proofs.Parser.Origins
import RdfXml.Proofs.Parser.References
import RdfXml.Proofs.Parser.Reification
import RdfXml.Proofs.Parser.Remarks
import RdfXml.Proofs.Parser.Statements
import RdfXml.Proofs.Parser.Subtrees
import RdfXml.Proofs.Parser.XmlLiteral
import RdfXml.Proofs.Rdf.BlankNodeLabel
import RdfXml.Proofs.Rdf.LanguageTag
import RdfXml.Proofs.Rdf.Statement
import RdfXml.Proofs.Text.Encoding
import RdfXml.Proofs.Text.Separated
import RdfXml.Proofs.Text.Utf8
import RdfXml.Proofs.Xml.AfterRoot
import RdfXml.Proofs.Xml.AttributeOrder
import RdfXml.Proofs.Xml.Bounds
import RdfXml.Proofs.Xml.ByteOrderMark
import RdfXml.Proofs.Xml.CharacterData
import RdfXml.Proofs.Xml.Chunks
import RdfXml.Proofs.Xml.Completion
import RdfXml.Proofs.Xml.Deliveries
import RdfXml.Proofs.Xml.Encounters
import RdfXml.Proofs.Xml.Event
import RdfXml.Proofs.Xml.Feeding
import RdfXml.Proofs.Xml.HeldText
import RdfXml.Proofs.Xml.LexicalScope
import RdfXml.Proofs.Xml.Markup
import RdfXml.Proofs.Xml.Nesting
import RdfXml.Proofs.Xml.Pending
import RdfXml.Proofs.Xml.Reading
import RdfXml.Proofs.Xml.Refusal
import RdfXml.Proofs.Xml.Remarks
import RdfXml.Proofs.Xml.Resolved
import RdfXml.Proofs.Xml.Scopes
import RdfXml.Proofs.Xml.Spelling
import RdfXml.Proofs.Xml.TextRuns
import RdfXml.Proofs.Xml.Tree
import RdfXml.Proofs.Xml.Waiting
import RdfXml.Proofs.Xml.WellNested
import RdfXml.Proofs.Xml.Writing
import RdfXml.Rdf.BlankNodeLabel
import RdfXml.Rdf.Graph
import RdfXml.Rdf.LanguageTag
import RdfXml.Rdf.Statement
import RdfXml.Rdf.Triple
import RdfXml.Rdf.Vocabulary
import RdfXml.Signal
import RdfXml.Text.Alphanumeric
import RdfXml.Text.Ascii
import RdfXml.Text.CharRanges
import RdfXml.Text.CodeTable
import RdfXml.Text.CombiningClass
import RdfXml.Text.Composites
import RdfXml.Text.Composition
import RdfXml.Text.Mark
import RdfXml.Text.Pattern
import RdfXml.Text.Pattern.Brackets
import RdfXml.Text.Pattern.Escape
import RdfXml.Text.Pattern.Reader
import RdfXml.Text.Quoted
import RdfXml.Text.Separated
import RdfXml.Text.Unprintable
import RdfXml.Text.Utf8
import RdfXml.Text.Whitespace
import RdfXml.Turtle.Abbreviation
import RdfXml.Turtle.Writer
import RdfXml.Url.Authority
import RdfXml.Url.Host
import RdfXml.Url.Normal
import RdfXml.Url.Path
import RdfXml.Url.PercentEncoding
import RdfXml.Url.Scheme
import RdfXml.Xml.Attribute
import RdfXml.Xml.Bindings
import RdfXml.Xml.Error
import RdfXml.Xml.Event
import RdfXml.Xml.Markup
import RdfXml.Xml.Name
import RdfXml.Xml.Reference
import RdfXml.Xml.Tokenizer
