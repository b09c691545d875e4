import Xsd.Arena
import Xsd.Automaton.Basic
import Xsd.Automaton.ContentModel
import Xsd.Automaton.Determinize
import Xsd.Automaton.Export
import Xsd.Automaton.Nfa
import Xsd.Builtin.Basic
import Xsd.Builtin.Form
import Xsd.CommandLine.Arguments
import Xsd.CommandLine.Report
import Xsd.CommandLine.Run
import Xsd.Component.Basic
import Xsd.Component.Definition
import Xsd.Component.Occurs
import Xsd.Component.Particle
import Xsd.Derivation.Attributes
import Xsd.Derivation.Content
import Xsd.Derivation.Derive
import Xsd.Derivation.Groups
import Xsd.Derivation.Progress
import Xsd.Derivation.TypeInfo
import Xsd.Derivation.ValueType
import Xsd.Document
import Xsd.Error
import Xsd.Facet.Basic
import Xsd.Facet.FacetSet
import Xsd.Facet.Pattern
import Xsd.Facet.ValueSpace
import Xsd.Facet.WhiteSpace
import Xsd.FilePath
import Xsd.FileTree
import Xsd.Json
import Xsd.Limits
import Xsd.Location
import Xsd.Main
import Xsd.Markup.Document
import Xsd.Markup.Element
import Xsd.Markup.Event
import Xsd.Markup.Scan
import Xsd.Model
import Xsd.Name
import Xsd.Proofs.Agreement
import Xsd.Proofs.Automaton.AllGroup
import Xsd.Proofs.Automaton.Construct
import Xsd.Proofs.Automaton.ContentModel
import Xsd.Proofs.Automaton.Determinize
import Xsd.Proofs.Automaton.Draft
import Xsd.Proofs.Automaton.Language
import Xsd.Proofs.Automaton.Limits
import Xsd.Proofs.Automaton.Matching
import Xsd.Proofs.Automaton.NextName
import Xsd.Proofs.Automaton.Readers
import Xsd.Proofs.Automaton.Rivals
import Xsd.Proofs.Automaton.Symbols
import Xsd.Proofs.Automaton.Walk
import Xsd.Proofs.Automaton.WellFormed
import Xsd.Proofs.Automaton.WordSize
import Xsd.Proofs.Builtin
import Xsd.Proofs.ClarkForm
import Xsd.Proofs.Compilation
import Xsd.Proofs.Derivation.Agreement
import Xsd.Proofs.Derivation.Attributes
import Xsd.Proofs.Derivation.Calls
import Xsd.Proofs.Derivation.Chain
import Xsd.Proofs.Derivation.Circles
import Xsd.Proofs.Derivation.Descent
import Xsd.Proofs.Derivation.Faults
import Xsd.Proofs.Derivation.GroupCircles
import Xsd.Proofs.Derivation.Groups
import Xsd.Proofs.Derivation.Inheritance
import Xsd.Proofs.Derivation.Links
import Xsd.Proofs.Derivation.Need
import Xsd.Proofs.Derivation.Numbers
import Xsd.Proofs.Derivation.Order
import Xsd.Proofs.Derivation.Progress
import Xsd.Proofs.Derivation.Refinement
import Xsd.Proofs.Derivation.Rings
import Xsd.Proofs.Derivation.Rounds
import Xsd.Proofs.Derivation.Uses
import Xsd.Proofs.Derivation.ValueType
import Xsd.Proofs.Derivation.Wildcards
import Xsd.Proofs.Enumeration
import Xsd.Proofs.Facet.Admission
import Xsd.Proofs.Facet.ClassReading
import Xsd.Proofs.Facet.DeclarationOrder
import Xsd.Proofs.Facet.Expression
import Xsd.Proofs.Facet.Fixed
import Xsd.Proofs.Facet.Independence
import Xsd.Proofs.Facet.Levels
import Xsd.Proofs.Facet.PatternReading
import Xsd.Proofs.Facet.Restriction
import Xsd.Proofs.Facet.WhiteSpace
import Xsd.Proofs.Limits
import Xsd.Proofs.Markup.Document
import Xsd.Proofs.Markup.Scopes
import Xsd.Proofs.Reachability
import Xsd.Proofs.Regex.Elsewhere
import Xsd.Proofs.Regex.Language
import Xsd.Proofs.Regex.Local
import Xsd.Proofs.Regex.Search
import Xsd.Proofs.Registry.History
import Xsd.Proofs.Registry.Visibility
import Xsd.Proofs.Schema.Accounts
import Xsd.Proofs.Schema.AllGroups
import Xsd.Proofs.Schema.Attempts
import Xsd.Proofs.Schema.Bindings
import Xsd.Proofs.Schema.Broken
import Xsd.Proofs.Schema.Cells
import Xsd.Proofs.Schema.Coherent
import Xsd.Proofs.Schema.Diagnostics
import Xsd.Proofs.Schema.Emptiable
import Xsd.Proofs.Schema.EmptyContent
import Xsd.Proofs.Schema.Extension
import Xsd.Proofs.Schema.Faults
import Xsd.Proofs.Schema.Grounded
import Xsd.Proofs.Schema.Growth
import Xsd.Proofs.Schema.Inclusion
import Xsd.Proofs.Schema.Limits
import Xsd.Proofs.Schema.Mentions
import Xsd.Proofs.Schema.Nesting
import Xsd.Proofs.Schema.Passes
import Xsd.Proofs.Schema.Reading
import Xsd.Proofs.Schema.Resolution
import Xsd.Proofs.Schema.Schedules
import Xsd.Proofs.Schema.Shapes
import Xsd.Proofs.Schema.Success
import Xsd.Proofs.Steps
import Xsd.Proofs.Substitution
import Xsd.Proofs.Substitution.ElementTypes
import Xsd.Proofs.Substitution.Members
import Xsd.Proofs.Table
import Xsd.Proofs.Text.Blank
import Xsd.Proofs.Text.Utf8
import Xsd.Proofs.Validation.Abstract
import Xsd.Proofs.Validation.EmptyElement
import Xsd.Proofs.Validation.Events
import Xsd.Proofs.Validation.Findings
import Xsd.Proofs.Validation.FixedValue
import Xsd.Proofs.Validation.Modes
import Xsd.Proofs.Validation.Places
import Xsd.Proofs.Validation.Skipped
import Xsd.Proofs.Validation.Trail
import Xsd.Proofs.Validation.Visits
import Xsd.Proofs.Value.Canonical
import Xsd.Proofs.Value.Exact
import Xsd.Proofs.Value.Order
import Xsd.Proofs.ValueConstraint
import Xsd.Proofs.Wildcard
import Xsd.QName
import Xsd.Reach
import Xsd.Regex.Basic
import Xsd.Regex.ByteRanges
import Xsd.Regex.CharSet
import Xsd.Regex.Reader
import Xsd.Regex.Shape
import Xsd.Regex.Size
import Xsd.Registry
import Xsd.Resolution
import Xsd.Retrieval
import Xsd.Schema.Assembly
import Xsd.Schema.Attribute
import Xsd.Schema.ComplexType
import Xsd.Schema.Content
import Xsd.Schema.Reading
import Xsd.Schema.SimpleType
import Xsd.Scope
import Xsd.Substitution
import Xsd.Table
import Xsd.Text.Blank
import Xsd.Text.Cut
import Xsd.Text.Digits
import Xsd.Text.Quoted
import Xsd.Text.Utf8
import Xsd.Unicode.Additions
import Xsd.Unicode.Age
import Xsd.Unicode.CaseFold
import Xsd.Unicode.Category
import Xsd.Unicode.Composition
import Xsd.Unicode.DecimalDigit
import Xsd.Unicode.Direction
import Xsd.Unicode.NameMapping
import Xsd.Unicode.Property
import Xsd.Unicode.Ranges
import Xsd.Unicode.Script
import Xsd.Unicode.Segmentation
import Xsd.Url.Basic
import Xsd.Url.Domain
import Xsd.Url.Host
import Xsd.Url.Path
import Xsd.Url.Percent
import Xsd.Url.Punycode
import Xsd.Validation
import Xsd.Value.Base64
import Xsd.Value.Binary
import Xsd.Value.Calendar
import Xsd.Value.Decimal
import Xsd.ValueConstraint
import Xsd.Violation
import Xsd.Wildcard
