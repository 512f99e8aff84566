import SchemaAlgebra.Builder.Edit
import SchemaAlgebra.Builder.Factory
import SchemaAlgebra.Builder.Operand
import SchemaAlgebra.Builder.Refusal
import SchemaAlgebra.Documents.Document
import SchemaAlgebra.Documents.Files
import SchemaAlgebra.Documents.Loader
import SchemaAlgebra.Fields
import SchemaAlgebra.Format.Calendar
import SchemaAlgebra.Format.Identifier
import SchemaAlgebra.Format.Registry
import SchemaAlgebra.Json.Basic
import SchemaAlgebra.Json.Equality
import SchemaAlgebra.Json.Key
import SchemaAlgebra.Json.Literal
import SchemaAlgebra.Json.Parser
import SchemaAlgebra.Json.Printer
import SchemaAlgebra.Number.Decimal
import SchemaAlgebra.Number.Double
import SchemaAlgebra.Number.Numeral
import SchemaAlgebra.Number.Order
import SchemaAlgebra.Pattern.Basic
import SchemaAlgebra.Pattern.Entry
import SchemaAlgebra.Pattern.Parser
import SchemaAlgebra.Pattern.Search
import SchemaAlgebra.Proofs.Builder.Absorbing
import SchemaAlgebra.Proofs.Builder.Additional
import SchemaAlgebra.Proofs.Builder.Algebra
import SchemaAlgebra.Proofs.Builder.Alternatives
import SchemaAlgebra.Proofs.Builder.Arrangement
import SchemaAlgebra.Proofs.Builder.Atomicity
import SchemaAlgebra.Proofs.Builder.Calling
import SchemaAlgebra.Proofs.Builder.Charter
import SchemaAlgebra.Proofs.Builder.Closing
import SchemaAlgebra.Proofs.Builder.Combining
import SchemaAlgebra.Proofs.Builder.Duties
import SchemaAlgebra.Proofs.Builder.Listing
import SchemaAlgebra.Proofs.Builder.Members
import SchemaAlgebra.Proofs.Builder.Moves
import SchemaAlgebra.Proofs.Builder.Moving
import SchemaAlgebra.Proofs.Builder.Offering
import SchemaAlgebra.Proofs.Builder.Order
import SchemaAlgebra.Proofs.Builder.Ordering
import SchemaAlgebra.Proofs.Builder.Picking
import SchemaAlgebra.Proofs.Builder.Presenting
import SchemaAlgebra.Proofs.Builder.Preserving
import SchemaAlgebra.Proofs.Builder.Properties
import SchemaAlgebra.Proofs.Builder.Refinement
import SchemaAlgebra.Proofs.Builder.Rounds
import SchemaAlgebra.Proofs.Builder.Runs
import SchemaAlgebra.Proofs.Builder.Separation
import SchemaAlgebra.Proofs.Builder.Staying
import SchemaAlgebra.Proofs.Builder.Steps
import SchemaAlgebra.Proofs.Builder.Surrounding
import SchemaAlgebra.Proofs.Builder.Upholding
import SchemaAlgebra.Proofs.Builder.Upkeep
import SchemaAlgebra.Proofs.Builder.Wrapping
import SchemaAlgebra.Proofs.Documents.Coherence
import SchemaAlgebra.Proofs.Documents.Keeping
import SchemaAlgebra.Proofs.Fields
import SchemaAlgebra.Proofs.Inlining.Containment
import SchemaAlgebra.Proofs.Inlining.Cycles
import SchemaAlgebra.Proofs.Inlining.Exactness
import SchemaAlgebra.Proofs.Inlining.Meaning
import SchemaAlgebra.Proofs.Inlining.Recursion
import SchemaAlgebra.Proofs.Inlining.Remainder
import SchemaAlgebra.Proofs.Inlining.Repetition
import SchemaAlgebra.Proofs.Inlining.Resolving
import SchemaAlgebra.Proofs.Inlining.Unfolding
import SchemaAlgebra.Proofs.Json.Key
import SchemaAlgebra.Proofs.Json.Lexemes
import SchemaAlgebra.Proofs.Json.Reordering
import SchemaAlgebra.Proofs.Json.RoundTrip
import SchemaAlgebra.Proofs.Json.Sorting
import SchemaAlgebra.Proofs.Json.Tree
import SchemaAlgebra.Proofs.Number.Numerals
import SchemaAlgebra.Proofs.Number.Rounding
import SchemaAlgebra.Proofs.Running
import SchemaAlgebra.Proofs.Schema.Arguments
import SchemaAlgebra.Proofs.Schema.Fragments
import SchemaAlgebra.Proofs.Schema.Locations
import SchemaAlgebra.Proofs.Schema.Metaschema
import SchemaAlgebra.Proofs.Schema.Nodes
import SchemaAlgebra.Proofs.Schema.Pointers
import SchemaAlgebra.Proofs.Schema.Positions
import SchemaAlgebra.Proofs.Schema.Requirements
import SchemaAlgebra.Proofs.Schema.Rules
import SchemaAlgebra.Proofs.Schema.Traversals
import SchemaAlgebra.Proofs.Session.Arrangement
import SchemaAlgebra.Proofs.Session.Copies
import SchemaAlgebra.Proofs.Session.History
import SchemaAlgebra.Proofs.Session.Loosening
import SchemaAlgebra.Proofs.Session.Moves
import SchemaAlgebra.Proofs.Session.Picking
import SchemaAlgebra.Proofs.Session.Refusal
import SchemaAlgebra.Proofs.Session.Renaming
import SchemaAlgebra.Proofs.Session.Requirements
import SchemaAlgebra.Proofs.Session.Snapshots
import SchemaAlgebra.Proofs.Session.Texts
import SchemaAlgebra.Proofs.Session.Transforming
import SchemaAlgebra.Proofs.Session.Uniting
import SchemaAlgebra.Proofs.Session.Validity
import SchemaAlgebra.Proofs.Store.Copying
import SchemaAlgebra.Proofs.Store.Denotation
import SchemaAlgebra.Proofs.Store.Finite
import SchemaAlgebra.Proofs.Store.Placing
import SchemaAlgebra.Proofs.Store.Reading
import SchemaAlgebra.Proofs.Store.Separation
import SchemaAlgebra.Proofs.Store.Visiting
import SchemaAlgebra.Proofs.Validation.Agreement
import SchemaAlgebra.Proofs.Validation.Answers
import SchemaAlgebra.Proofs.Validation.Bystanders
import SchemaAlgebra.Proofs.Validation.Checking
import SchemaAlgebra.Proofs.Validation.Closed
import SchemaAlgebra.Proofs.Validation.Coercions
import SchemaAlgebra.Proofs.Validation.Compatibility
import SchemaAlgebra.Proofs.Validation.Concurrence
import SchemaAlgebra.Proofs.Validation.Conversion
import SchemaAlgebra.Proofs.Validation.Editing
import SchemaAlgebra.Proofs.Validation.Endings
import SchemaAlgebra.Proofs.Validation.Filling
import SchemaAlgebra.Proofs.Validation.Following
import SchemaAlgebra.Proofs.Validation.Footprints
import SchemaAlgebra.Proofs.Validation.Indifference
import SchemaAlgebra.Proofs.Validation.KeyOrder
import SchemaAlgebra.Proofs.Validation.Lists
import SchemaAlgebra.Proofs.Validation.Locality
import SchemaAlgebra.Proofs.Validation.Naming
import SchemaAlgebra.Proofs.Validation.Normalization
import SchemaAlgebra.Proofs.Validation.NumeralTexts
import SchemaAlgebra.Proofs.Validation.Ordinary
import SchemaAlgebra.Proofs.Validation.Outcome
import SchemaAlgebra.Proofs.Validation.Overlong
import SchemaAlgebra.Proofs.Validation.Picking
import SchemaAlgebra.Proofs.Validation.Pointwise
import SchemaAlgebra.Proofs.Validation.Rearranging
import SchemaAlgebra.Proofs.Validation.Records
import SchemaAlgebra.Proofs.Validation.Renaming
import SchemaAlgebra.Proofs.Validation.Rewriting
import SchemaAlgebra.Proofs.Validation.Rows
import SchemaAlgebra.Proofs.Validation.Separation
import SchemaAlgebra.Proofs.Validation.Settlement
import SchemaAlgebra.Proofs.Validation.Stability
import SchemaAlgebra.Proofs.Validation.Subschema
import SchemaAlgebra.Proofs.Validation.Survival
import SchemaAlgebra.Proofs.Validation.Targets
import SchemaAlgebra.Proofs.Validation.Trial
import SchemaAlgebra.Proofs.Validation.Undeclared
import SchemaAlgebra.Proofs.Validation.Uniting
import SchemaAlgebra.Proofs.Validation.Verdict
import SchemaAlgebra.Proofs.Validation.Widening
import SchemaAlgebra.Schema.Draft
import SchemaAlgebra.Schema.Inline
import SchemaAlgebra.Schema.Location
import SchemaAlgebra.Schema.Metadata
import SchemaAlgebra.Schema.Metaschema
import SchemaAlgebra.Schema.Pointer
import SchemaAlgebra.Schema.Shape
import SchemaAlgebra.Schema.Walk
import SchemaAlgebra.Session.Basic
import SchemaAlgebra.Session.Build
import SchemaAlgebra.Session.Validate
import SchemaAlgebra.Store.Basic
import SchemaAlgebra.Store.Tree
import SchemaAlgebra.Store.Walk
import SchemaAlgebra.Text.Case
import SchemaAlgebra.Text.Character
import SchemaAlgebra.Text.CharacterName.Alphabetic
import SchemaAlgebra.Text.CharacterName.Basic
import SchemaAlgebra.Text.CharacterName.Block
import SchemaAlgebra.Text.CharacterName.Historic
import SchemaAlgebra.Text.CharacterName.Lookup
import SchemaAlgebra.Text.CharacterName.Picture
import SchemaAlgebra.Text.Code
import SchemaAlgebra.Text.Letter
import SchemaAlgebra.Text.Name
import SchemaAlgebra.Text.Percent
import SchemaAlgebra.Text.Printable
import SchemaAlgebra.Text.Quoted
import SchemaAlgebra.Text.Split
import SchemaAlgebra.Text.Uri
import SchemaAlgebra.Validation.Coercion
import SchemaAlgebra.Validation.Evaluation
import SchemaAlgebra.Validation.Keyword
import SchemaAlgebra.Validation.Options
import SchemaAlgebra.Validation.Outcome
import SchemaAlgebra.Validation.Part
import SchemaAlgebra.Validation.Reference
import SchemaAlgebra.Validation.Structure
import SchemaAlgebra.Validation.Validator
import SchemaAlgebra.Yaml.Error
import SchemaAlgebra.Yaml.Kind
import SchemaAlgebra.Yaml.Moment
import SchemaAlgebra.Yaml.Node
import SchemaAlgebra.Yaml.Number
import SchemaAlgebra.Yaml.Place
import SchemaAlgebra.Yaml.Scalar
import SchemaAlgebra.Yaml.Token
import SchemaAlgebra.Yaml.Value
