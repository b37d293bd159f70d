import Recast.Calendar.Date
import Recast.Calendar.Fields
import Recast.Calendar.Layout
import Recast.Calendar.Printer
import Recast.Calendar.Reader
import Recast.Coercion
import Recast.Command.Failure
import Recast.Command.Grammar
import Recast.Command.Invocation
import Recast.Command.Level
import Recast.Command.Run
import Recast.Command.Surroundings
import Recast.Input.Context
import Recast.Input.Document
import Recast.Input.Finding
import Recast.Input.Format
import Recast.Json.Decode
import Recast.Json.Equality
import Recast.Json.Fault
import Recast.Json.Location
import Recast.Json.Numeral
import Recast.Json.Outline
import Recast.Json.Printer
import Recast.Json.Reader
import Recast.Json.Value
import Recast.Main
import Recast.Markup.Name
import Recast.Markup.Namespace
import Recast.Markup.Node
import Recast.Markup.Reader
import Recast.Markup.Reference
import Recast.Markup.Token
import Recast.NodePath.Basic
import Recast.NodePath.OfPath
import Recast.NodePath.Printer
import Recast.NodePath.Reader
import Recast.NodePath.Select
import Recast.Number.Double
import Recast.Number.Reader
import Recast.Number.Shortest
import Recast.Operation.Basic
import Recast.Operation.Reader
import Recast.Operation.Run
import Recast.Path.Basic
import Recast.Path.Printer
import Recast.Path.Reader
import Recast.Path.Select
import Recast.Pattern.CharSet
import Recast.Pattern.Match
import Recast.Pattern.Program
import Recast.Pattern.Property
import Recast.Pattern.Reader
import Recast.Pattern.Syntax
import Recast.Schema.Assembly
import Recast.Schema.File
import Recast.Schema.Instance
import Recast.Schema.Kind
import Recast.Schema.Rule
import Recast.Schema.Walk
import Recast.Settings.Basic
import Recast.Settings.Logging
import Recast.Settings.Printer
import Recast.Settings.Reader
import Recast.Storage.Folder
import Recast.Storage.Location
import Recast.Text.Base64
import Recast.Text.Basic
import Recast.Text.Case
import Recast.Text.Letter
import Recast.Text.Quoted
import Recast.Text.Utf8
import Recast.Toml.Printer
import Recast.Toml.Reader
import Recast.Toml.Value
import Recast.Transform.Error
import Recast.Transform.Resolve
import Recast.Transform.Run
import Recast.Transform.Transformer
import Recast.Transform.Tree
import Recast.Validation.Assertion
import Recast.Validation.Check
import Recast.Validation.Draft
import Recast.Validation.Errors
import Recast.Validation.Format
import Recast.Validation.Reference
import Recast.Validation.Schema
import Recast.Validation.Shape
import Recast.Yaml.Cursor
import Recast.Yaml.Node
import Recast.Yaml.Plain
import Recast.Yaml.Printer
import Recast.Yaml.Scalar
import Recast.Yaml.Tag
import Recast.Yaml.Token
import Recast.Yaml.Value
import Recast.Proofs.Text.Affix
import Recast.Proofs.Path.Grammar
import Recast.Proofs.Path.Reading
import Recast.Proofs.Path.Writing
import Recast.Proofs.Outcome
import Recast.Proofs.Path.Canonical
import Recast.Proofs.Input.Below
import Recast.Proofs.Input.Lookup
import Recast.Proofs.Input.Narrowing
import Recast.Proofs.Transform.Within
import Recast.Proofs.Schema.Instance
import Recast.Proofs.Schema.Rule
import Recast.Proofs.Transform.Tree
import Recast.Proofs.Transform.Build
import Recast.Proofs.Transform.Refinement
import Recast.Proofs.Transform.Resolve
import Recast.Proofs.Transform.Bare
import Recast.Proofs.Transform.Phases
import Recast.Proofs.Coercion
import Recast.Proofs.Transform.Shape
import Recast.Proofs.Transform.Fixpoint
import Recast.Proofs.Path.Items
import Recast.Proofs.Path.Locations
import Recast.Proofs.Transform.Elements
import Recast.Proofs.Transform.Visits
import Recast.Proofs.Transform.Scopes
import Recast.Proofs.Transform.Rules
import Recast.Proofs.Schema.Alike
import Recast.Proofs.Transform.Spelling
import Recast.Proofs.Json.Location
import Recast.Proofs.Json.Replaced
import Recast.Proofs.Schema.Respelling
import Recast.Proofs.Transform.Locality
import Recast.Proofs.Schema.Current
import Recast.Proofs.Schema.Expansion
import Recast.Proofs.Schema.Preorder
import Recast.Proofs.Schema.Visiting
import Recast.Proofs.Markup.OfValue
import Recast.Proofs.NodePath.Members
import Recast.Proofs.Transform.Pairs
import Recast.Proofs.Transform.Formats
import Recast.Proofs.Transform.Undeclared
import Recast.Proofs.Command.Running
import Recast.Proofs.Command.Effects
import Recast.Proofs.Storage.Folder
import Recast.Proofs.Path.Preorder
import Recast.Proofs.Path.Numbered
import Recast.Proofs.Path.Order
import Recast.Proofs.Transform.Writes
import Recast.Proofs.Transform.Takes
import Recast.Proofs.Transform.Independent
import Recast.Proofs.Selection
import Recast.Proofs.NodePath.Select
import Recast.Proofs.NodePath.Compose
import Recast.Proofs.NodePath.Numbered
import Recast.Proofs.NodePath.Order
import Recast.Proofs.NodePath.Disorder
import Recast.Proofs.NodePath.Grammar
import Recast.Proofs.Markup.LocalNames
import Recast.Proofs.NodePath.Prefixes
import Recast.Proofs.NodePath.Reading
import Recast.Proofs.NodePath.Overflow
import Recast.Proofs.NodePath.Positions
import Recast.Proofs.NodePath.Writing
import Recast.Proofs.NodePath.Roundtrip
import Recast.Proofs.Schema.Assembly
import Recast.Proofs.Schema.Refusal
import Recast.Proofs.Schema.Mirror
import Recast.Proofs.Text.Digits
import Recast.Proofs.Operation.Duration
import Recast.Proofs.Number.Rounding
import Recast.Proofs.Number.Reader
import Recast.Proofs.Coercion.Text
import Recast.Proofs.Operation.Greatest
import Recast.Proofs.Calendar.Date
import Recast.Proofs.Calendar.Reader
import Recast.Proofs.Calendar.Text
import Recast.Proofs.Coercion.Moment
import Recast.Proofs.Schema.Library
import Recast.Proofs.Validation.Violations
import Recast.Proofs.Transform.Concatenate
import Recast.Proofs.Path.Pinpoint
