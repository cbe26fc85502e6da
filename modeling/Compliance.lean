import Compliance.Table
import Compliance.Text.Blank
import Compliance.Text.Pieces
import Compliance.Text.Quoted
import Compliance.Text.Lowercase
import Compliance.Decimal.Shortest
import Compliance.Json.Reader
import Compliance.Json.Record
import Compliance.Json.Printer
import Compliance.Yaml.Token
import Compliance.Yaml.Document
import Compliance.Yaml.Record
import Compliance.Yaml.Value.Reader
import Compliance.Yaml.Value.Record
import Compliance.Toml.Reader
import Compliance.Toml.Record
import Compliance.Files.System
import Compliance.Files.Scan
import Compliance.Files.Snapshot
import Compliance.Product
import Compliance.Rule.Repository
import Compliance.Catalog.Profile
import Compliance.Implementation
import Compliance.Generator
import Compliance.Settings.File
import Compliance.CommandLine
import Compliance.Report
import Compliance.Command
import Compliance.Main
import Compliance.Proofs.Rule.Override
import Compliance.Proofs.Rule.Batch
import Compliance.Proofs.Rule.Batches
import Compliance.Proofs.Rule.Selection
import Compliance.Proofs.Rule.Binding
import Compliance.Proofs.Rule.Frame
import Compliance.Proofs.Rule.Definition
import Compliance.Proofs.Rule.Outcome
import Compliance.Proofs.RuleSet
import Compliance.Proofs.Rule.Listed
import Compliance.Proofs.Rule.Restated
import Compliance.Proofs.Except
import Compliance.Proofs.Parameter.Store
import Compliance.Proofs.Generator
import Compliance.Proofs.Catalog.Index
import Compliance.Proofs.Json.Record
import Compliance.Proofs.Json.Printer
import Compliance.Proofs.Component.Uuid
import Compliance.Proofs.Component.Timestamp
import Compliance.Proofs.Catalog.Reading
import Compliance.Proofs.Component.Document
import Compliance.Proofs.Policy.Addresses
import Compliance.Proofs.Implementation
import Compliance.Proofs.Yaml.Entries
import Compliance.Proofs.Product.Qualified
import Compliance.Proofs.Text.Blank
import Compliance.Proofs.Text.Octets
import Compliance.Proofs.Text.Pieces
import Compliance.Proofs.Path
import Compliance.Proofs.Files.Writing
import Compliance.Proofs.Policy.Library
import Compliance.Proofs.Precondition
import Compliance.Proofs.Command
import Compliance.Proofs.Files.Tree
import Compliance.Proofs.Files.Layout
import Compliance.Proofs.Files.Scan
import Compliance.Proofs.Files.Order
import Compliance.Proofs.Rule.Directories
import Compliance.Proofs.Parameter.Files
import Compliance.Proofs.Preview
import Compliance.Proofs.Product.Placeholder
import Compliance.Proofs.Rule.Agreement
import Compliance.Proofs.Component.Stamp
import Compliance.Proofs.Policy.Interchangeable
import Compliance.Proofs.Interference
import Compliance.Proofs.Table
import Compliance.Proofs.Product.Resolved
import Compliance.Proofs.Files.Listing
import Compliance.Proofs.Policy.Files
import Compliance.Proofs.Preorder
import Compliance.Proofs.Catalog.Flattening
import Compliance.Proofs.RuleSet.Order
import Compliance.Proofs.Text.Erasing
import Compliance.Proofs.Rule.Description
import Compliance.Proofs.Catalog.Choice
import Compliance.Proofs.Product.Environment
import Compliance.Proofs.Rule.References
import Compliance.Proofs.Text.Quoted
import Compliance.Proofs.Parameter.Options
import Compliance.Proofs.CommandLine
import Compliance.Proofs.Settings
import Compliance.Proofs.Rule.Sections
