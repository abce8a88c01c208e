import Faceting.Artifact.Kind
import Faceting.Artifact.Plan
import Faceting.Artifact.Render
import Faceting.Command
import Faceting.Digest.Sha256
import Faceting.Document
import Faceting.Document.Format
import Faceting.Document.Json.Number
import Faceting.Document.Json.Printer
import Faceting.Document.Json.Reader
import Faceting.Document.Json5
import Faceting.Document.Record
import Faceting.Document.Source
import Faceting.Document.Toml
import Faceting.Document.Toml.Number
import Faceting.Document.Toml.Text
import Faceting.Document.Yaml
import Faceting.Document.Yaml.Cursor
import Faceting.Document.Yaml.Node
import Faceting.Document.Yaml.Scalar
import Faceting.Document.Yaml.Tag
import Faceting.Document.Yaml.Text
import Faceting.Document.Yaml.Tokens
import Faceting.Emission
import Faceting.Facet
import Faceting.Facet.Names
import Faceting.Failure
import Faceting.Files.Disk
import Faceting.Files.Monad
import Faceting.Files.Tree
import Faceting.Generation
import Faceting.Logging
import Faceting.Main
import Faceting.Manifest
import Faceting.Number.Decimal
import Faceting.Number.Double
import Faceting.Number.Shortest
import Faceting.Path
import Faceting.Proofs.Artifact.Blocks
import Faceting.Proofs.Artifact.FileNames
import Faceting.Proofs.Artifact.Includes
import Faceting.Proofs.Artifact.Preamble
import Faceting.Proofs.Artifact.Profiles
import Faceting.Proofs.Artifact.Receivers
import Faceting.Proofs.Artifact.Signatures
import Faceting.Proofs.Artifact.Styles
import Faceting.Proofs.Artifact.Totality
import Faceting.Proofs.Basic
import Faceting.Proofs.Document.Json
import Faceting.Proofs.Emission.Atomicity
import Faceting.Proofs.Emission.Collisions
import Faceting.Proofs.Emission.Repetition
import Faceting.Proofs.Emission.Report
import Faceting.Proofs.Emission.Steps
import Faceting.Proofs.Facet.Documentation
import Faceting.Proofs.Facet.Faithfulness
import Faceting.Proofs.Facet.Include
import Faceting.Proofs.Facet.Receiver
import Faceting.Proofs.Files.Below
import Faceting.Proofs.Files.Directories
import Faceting.Proofs.Files.Operations
import Faceting.Proofs.Files.Resolution
import Faceting.Proofs.Files.Run
import Faceting.Proofs.Files.Tree
import Faceting.Proofs.Files.Walk
import Faceting.Proofs.Generation
import Faceting.Proofs.Generation.Overwriting
import Faceting.Proofs.Generation.Preparation
import Faceting.Proofs.Generation.Reproducibility
import Faceting.Proofs.Manifest
import Faceting.Proofs.Path
import Faceting.Proofs.Schema.Diagnosis
import Faceting.Proofs.Schema.Encoding
import Faceting.Proofs.Schema.Grammar
import Faceting.Proofs.Schema.Irrelevance
import Faceting.Proofs.Schema.Location
import Faceting.Proofs.Settings
import Faceting.Proofs.Signature
import Faceting.Proofs.Template.Functions
import Faceting.Proofs.Template.Kinds
import Faceting.Proofs.Template.Library
import Faceting.Proofs.Template.Method
import Faceting.Proofs.Template.Overrides
import Faceting.Proofs.Template.Queries
import Faceting.Proofs.Template.References
import Faceting.Proofs.Template.Render
import Faceting.Proofs.Template.Shape
import Faceting.Proofs.Template.Typing
import Faceting.Proofs.Text.Rows
import Faceting.Proofs.Writer.Aliases
import Faceting.Proofs.Writer.Batch
import Faceting.Proofs.Writer.Protection
import Faceting.Proofs.Writer.Steps
import Faceting.Proofs.Writer.Written
import Faceting.Schema
import Faceting.Schema.Encoding
import Faceting.Schema.Error
import Faceting.Schema.Reader
import Faceting.Settings
import Faceting.Settings.Arguments
import Faceting.Settings.Choices
import Faceting.Settings.File
import Faceting.Signature
import Faceting.Template.Builtin.Abstract
import Faceting.Template.Builtin.Any
import Faceting.Template.Builtin.Parts
import Faceting.Template.Builtin.Representation
import Faceting.Template.Builtin.Router
import Faceting.Template.Builtin.Xfer
import Faceting.Template.Fault
import Faceting.Template.Function
import Faceting.Template.Host
import Faceting.Template.Library
import Faceting.Template.Markup
import Faceting.Template.Parser
import Faceting.Template.Render
import Faceting.Template.Scope
import Faceting.Template.Tree
import Faceting.Template.Value
import Faceting.Text.CaseTable
import Faceting.Text.Casing
import Faceting.Text.Character
import Faceting.Text.Letter
import Faceting.Text.Quoted
import Faceting.Text.Split
import Faceting.Writer
import Faceting.Writer.Error
