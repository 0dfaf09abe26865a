import ConfigReader.Combinator
import ConfigReader.CommandLine
import ConfigReader.CommandLine.Attribute
import ConfigReader.CommandLine.ExitCode
import ConfigReader.CommandLine.Platform
import ConfigReader.CommandLine.Refusal
import ConfigReader.CommandLine.Report
import ConfigReader.CommandLine.Request
import ConfigReader.CommandLine.Target
import ConfigReader.Description
import ConfigReader.Draft
import ConfigReader.ErrorChain
import ConfigReader.ErrorClass
import ConfigReader.Evaluation
import ConfigReader.Failure
import ConfigReader.File
import ConfigReader.Format.Base64
import ConfigReader.Format.Fault
import ConfigReader.Format.Json
import ConfigReader.Format.JsonText
import ConfigReader.Format.Properties
import ConfigReader.Format.Readers
import ConfigReader.Format.Toml
import ConfigReader.Format.Yaml
import ConfigReader.Format.Yaml.Assembly
import ConfigReader.Format.Yaml.Cursor
import ConfigReader.Format.Yaml.Merge
import ConfigReader.Format.Yaml.Node
import ConfigReader.Format.Yaml.Number
import ConfigReader.Format.Yaml.Scalar
import ConfigReader.Format.Yaml.ScalarValue
import ConfigReader.Format.Yaml.Tag
import ConfigReader.Format.Yaml.Timestamp
import ConfigReader.Format.Yaml.Token
import ConfigReader.Invocation
import ConfigReader.Key
import ConfigReader.Kind
import ConfigReader.Logging
import ConfigReader.Logging.Bound
import ConfigReader.Logging.Call
import ConfigReader.Logging.Level
import ConfigReader.Logging.Normal
import ConfigReader.Logging.Template
import ConfigReader.Logging.Timestamp
import ConfigReader.Lookup
import ConfigReader.Main
import ConfigReader.Moment
import ConfigReader.Number.Binary64
import ConfigReader.Number.Decimal
import ConfigReader.Number.Literal
import ConfigReader.Number.Places
import ConfigReader.Number.Shortest
import ConfigReader.Program
import ConfigReader.Proofs.Agreement
import ConfigReader.Proofs.Applicative
import ConfigReader.Proofs.Arguments
import ConfigReader.Proofs.Chains
import ConfigReader.Proofs.Collecting
import ConfigReader.Proofs.Commands
import ConfigReader.Proofs.Concatenation
import ConfigReader.Proofs.Continuation
import ConfigReader.Proofs.Decimals
import ConfigReader.Proofs.Described
import ConfigReader.Proofs.Distinct
import ConfigReader.Proofs.Division
import ConfigReader.Proofs.ElementIds
import ConfigReader.Proofs.Elements
import ConfigReader.Proofs.Escapes
import ConfigReader.Proofs.Flattening
import ConfigReader.Proofs.Forms
import ConfigReader.Proofs.Hexadecimal
import ConfigReader.Proofs.Issues
import ConfigReader.Proofs.Joined
import ConfigReader.Proofs.JsonGrammar
import ConfigReader.Proofs.JsonTrees
import ConfigReader.Proofs.Layers
import ConfigReader.Proofs.Listing
import ConfigReader.Proofs.Loading
import ConfigReader.Proofs.Lookups
import ConfigReader.Proofs.Meaning
import ConfigReader.Proofs.Merging
import ConfigReader.Proofs.Normalizing
import ConfigReader.Proofs.Messages
import ConfigReader.Proofs.NumberEscapes
import ConfigReader.Proofs.Numerals
import ConfigReader.Proofs.Overrides
import ConfigReader.Proofs.Parts
import ConfigReader.Proofs.Paths
import ConfigReader.Proofs.Precedence
import ConfigReader.Proofs.Replies
import ConfigReader.Proofs.Reports
import ConfigReader.Proofs.Requests
import ConfigReader.Proofs.Returning
import ConfigReader.Proofs.Rows
import ConfigReader.Proofs.Runs
import ConfigReader.Proofs.Scanning
import ConfigReader.Proofs.Schema
import ConfigReader.Proofs.Scopes
import ConfigReader.Proofs.Settings
import ConfigReader.Proofs.Shown
import ConfigReader.Proofs.Sources
import ConfigReader.Proofs.Tables
import ConfigReader.Proofs.Traces
import ConfigReader.Proofs.Trees
import ConfigReader.Proofs.Variables
import ConfigReader.Proofs.Webs
import ConfigReader.Proofs.Writing
import ConfigReader.Run
import ConfigReader.Settings
import ConfigReader.Source
import ConfigReader.Source.Arguments
import ConfigReader.Source.Cyclic
import ConfigReader.Source.Document
import ConfigReader.Source.Flat
import ConfigReader.Source.Layered
import ConfigReader.Source.Loader
import ConfigReader.Source.Reader
import ConfigReader.Strategy
import ConfigReader.Text
import ConfigReader.Text.Case
import ConfigReader.Text.Class
import ConfigReader.Text.Lines
import ConfigReader.Text.Printable
import ConfigReader.Text.Quoted
import ConfigReader.Text.Utf8
import ConfigReader.Value
import ConfigReader.Web
