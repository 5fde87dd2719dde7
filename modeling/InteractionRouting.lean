import InteractionRouting.Argument
import InteractionRouting.Catalogue
import InteractionRouting.Command
import InteractionRouting.Conduct
import InteractionRouting.Config.Basic
import InteractionRouting.Config.Layer
import InteractionRouting.Config.Loader
import InteractionRouting.Config.Variable
import InteractionRouting.Decimal.Layout
import InteractionRouting.Decimal.Scaling
import InteractionRouting.Decimal.Shortest
import InteractionRouting.Entity
import InteractionRouting.Envelope
import InteractionRouting.EventLoop
import InteractionRouting.Exchange
import InteractionRouting.Fanout
import InteractionRouting.FileSystem
import InteractionRouting.Group
import InteractionRouting.Identifier
import InteractionRouting.Input
import InteractionRouting.Interaction
import InteractionRouting.Json.Basic
import InteractionRouting.Json.Printer
import InteractionRouting.Json.Reader
import InteractionRouting.Log.Filter
import InteractionRouting.Log.Pattern.Expression
import InteractionRouting.Log.Pattern.Meaning
import InteractionRouting.Log.Pattern.Reader
import InteractionRouting.Log.Setup
import InteractionRouting.Manifest
import InteractionRouting.Outcome
import InteractionRouting.Parameter
import InteractionRouting.Platform
import InteractionRouting.Reply
import InteractionRouting.Report
import InteractionRouting.Router
import InteractionRouting.Service
import InteractionRouting.Table
import InteractionRouting.Text.Alphabetic
import InteractionRouting.Text.Alphanumeric
import InteractionRouting.Text.Basic
import InteractionRouting.Text.Cased
import InteractionRouting.Text.Hidden
import InteractionRouting.Text.LowerCase
import InteractionRouting.Text.Shown
import InteractionRouting.Toml.Quoted
import InteractionRouting.Toml.Reader
import InteractionRouting.Toml.Scalar
import InteractionRouting.Toml.Tree
import InteractionRouting.Wire.Codec
import InteractionRouting.Wire.Mismatch
import InteractionRouting.Wire.Record
import InteractionRouting.Proofs.Json.Shape
import InteractionRouting.Proofs.Json.RoundTrip
import InteractionRouting.Proofs.Identifier.RoundTrip
import InteractionRouting.Proofs.Interaction.OneShot
import InteractionRouting.Proofs.Conduct.Runs
import InteractionRouting.Proofs.Exchange.Turns
import InteractionRouting.Proofs.Catalogue.Matching
import InteractionRouting.Proofs.Catalogue.Admission
import InteractionRouting.Proofs.EventLoop.Accounting
import InteractionRouting.Proofs.Catalogue.Compilation
import InteractionRouting.Proofs.Service.Assembly
import InteractionRouting.Proofs.Router.Invocation
import InteractionRouting.Proofs.Exchange.Callbacks
import InteractionRouting.Proofs.Service.CommandHandling
import InteractionRouting.Proofs.Router.Routing
import InteractionRouting.Proofs.Arguments.Resolution
import InteractionRouting.Proofs.Arguments.Getters
import InteractionRouting.Proofs.Command.Building
import InteractionRouting.Proofs.Command.Rules
import InteractionRouting.Proofs.Router.Outcomes
import InteractionRouting.Proofs.Router.CommandInput
import InteractionRouting.Proofs.Service.SharedRoutes
import InteractionRouting.Proofs.Wire.RoundTrip
import InteractionRouting.Proofs.Wire.RecordRoundTrip
import InteractionRouting.Proofs.Entity.RoundTrip
import InteractionRouting.Proofs.Envelope.RoundTrip
import InteractionRouting.Proofs.Reply.RoundTrip
import InteractionRouting.Proofs.Manifest.RoundTrip
import InteractionRouting.Proofs.Exchange.Isolation
import InteractionRouting.Proofs.Json.Consumption
import InteractionRouting.Proofs.Json.Numerals
import InteractionRouting.Proofs.Json.Derivation
import InteractionRouting.Proofs.Json.Compactness
import InteractionRouting.Proofs.Identifier.Reissue
import InteractionRouting.Proofs.EventLoop.Manifests
import InteractionRouting.Proofs.Service.Registration
import InteractionRouting.Proofs.Service.Admission
import InteractionRouting.Proofs.Service.Opening
import InteractionRouting.Proofs.Text.Splitting
import InteractionRouting.Proofs.Toml.DistinctKeys
import InteractionRouting.Proofs.Config.Overlay
import InteractionRouting.Proofs.Config.Sources
import InteractionRouting.Proofs.Config.Echoes
import InteractionRouting.Proofs.Config.Settings
import InteractionRouting.Proofs.Config.Files
import InteractionRouting.Proofs.Config.Layering
import InteractionRouting.Proofs.Arguments.Values
import InteractionRouting.Proofs.Arguments.PlainValues
import InteractionRouting.Proofs.Arguments.Selection
import InteractionRouting.Proofs.Decimal.Finiteness
import InteractionRouting.Proofs.Wire.Inheritance
import InteractionRouting.Proofs.Wire.Respelling
import InteractionRouting.Proofs.Envelope.Respelling
import InteractionRouting.Proofs.Router.Respelling
import InteractionRouting.Proofs.Group.Sharing
