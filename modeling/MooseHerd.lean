import MooseHerd.Text.Property.WhiteSpace
import MooseHerd.Text.Letters
import MooseHerd.Text.Lowercase
import MooseHerd.Text.Quoted
import MooseHerd.Random.ChaCha
import MooseHerd.Random.Choice
import MooseHerd.Random.Normal
import MooseHerd.Names.FirstNames
import MooseHerd.Json.Printer
import MooseHerd.Json.Schema
import MooseHerd.Error
import MooseHerd.Log.Filter
import MooseHerd.Log.Layout
import MooseHerd.Herd
import MooseHerd.Store.Memory
import MooseHerd.Store.Script
import MooseHerd.Populate
import MooseHerd.Settings.Basic
import MooseHerd.Log.Collector
import MooseHerd.Toml.Scalar
import MooseHerd.Toml.Document
import MooseHerd.Settings.Layers
import MooseHerd.Http.Script
import MooseHerd.Store.Cluster
import MooseHerd.Program
import MooseHerd.Main
import MooseHerd.Proofs.Run.DryRun
import MooseHerd.Proofs.Store.Requests
import MooseHerd.Proofs.Store.Collections
import MooseHerd.Proofs.Populate.Cluster
import MooseHerd.Proofs.Settings.Environment
import MooseHerd.Proofs.Decimal.Shortest
import MooseHerd.Proofs.Json.Scaled
import MooseHerd.Proofs.Json.Number
import MooseHerd.Proofs.Json.RoundTrip
import MooseHerd.Proofs.Text.Utf8
import MooseHerd.Proofs.Manifest.Stamped
import MooseHerd.Proofs.Populate.Agreement
import MooseHerd.Proofs.Store.Orders
import MooseHerd.Proofs.Run.Channels
import MooseHerd.Proofs.Settings.Seed
import MooseHerd.Proofs.Names.Limits
import MooseHerd.Proofs.Herd.Traits
import MooseHerd.Proofs.Manifest.Decoded
import MooseHerd.Proofs.Manifest.Shape
import MooseHerd.Proofs.Store.Refusal
import MooseHerd.Proofs.Herd.Letter
import MooseHerd.Proofs.Store.Client
import MooseHerd.Proofs.Run.Posts
import MooseHerd.Proofs.Run.Secrecy
import MooseHerd.Proofs.Decimal.Bounded
import MooseHerd.Proofs.CommandLine.Written
import MooseHerd.Proofs.CommandLine.Positionals
import MooseHerd.Proofs.Names.Pool
import MooseHerd.Proofs.Store.Address
import MooseHerd.Proofs.Herd.SameName
