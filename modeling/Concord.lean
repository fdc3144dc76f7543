import Concord.Colour
import Concord.CommandLine
import Concord.Config.Basic
import Concord.Config.Document
import Concord.Config.Files
import Concord.Config.Tokens
import Concord.Config.Validation
import Concord.Decimal.Basic
import Concord.Decimal.Double
import Concord.Decimal.Measure
import Concord.Dict
import Concord.Diff
import Concord.Digest.Sha256
import Concord.EnvFile.Basic
import Concord.EnvFile.Line
import Concord.EnvFile.Value
import Concord.Environment
import Concord.Error
import Concord.FilePath
import Concord.FileTree
import Concord.Item
import Concord.Json.Basic
import Concord.Json.Reader
import Concord.Json.Text
import Concord.Kind.Backend
import Concord.Kind.Basic
import Concord.Kind.Policy
import Concord.Log
import Concord.Main
import Concord.Metrics
import Concord.MountPath
import Concord.Options
import Concord.Pass
import Concord.Plan
import Concord.Pool.Basic
import Concord.Pool.FanOut
import Concord.Program
import Concord.Registry
import Concord.Report
import Concord.Run
import Concord.RunId
import Concord.Schema.Basic
import Concord.Schema.Reader
import Concord.Server.Basic
import Concord.Server.Faults
import Concord.Server.Http
import Concord.Server.Memory
import Concord.Server.Payload
import Concord.Table
import Concord.Text.Alphanumeric
import Concord.Text.Blank
import Concord.Text.Columns
import Concord.Text.Composition
import Concord.Text.Emoji
import Concord.Text.Joining
import Concord.Text.Marks
import Concord.Text.Quoted
import Concord.Text.Ranges
import Concord.Text.Width
import Concord.Timestamp
import Concord.Url.Basic
import Concord.Url.Domain.Basic
import Concord.Url.Domain.Direction
import Concord.Url.Domain.FirstRules
import Concord.Url.Domain.Label
import Concord.Url.Domain.Replacement
import Concord.Url.Domain.SecondRules
import Concord.Url.Host
import Concord.Url.Percent
import Concord.Url.Punycode
import Concord.Yaml.Document
import Concord.Yaml.Glyph
import Concord.Yaml.Node
import Concord.Yaml.Scalar
import Concord.Yaml.Token
import Concord.Yaml.Value
import Concord.Proofs.Dict
import Concord.Proofs.FanOut.Steps
import Concord.Proofs.FanOut.Progress
import Concord.Proofs.Session
import Concord.Proofs.Exchange
import Concord.Proofs.Diff.Pairing
import Concord.Proofs.Diff.Script
import Concord.Proofs.Diff.Repetition
import Concord.Proofs.Kind.Fetch
import Concord.Proofs.Kind.Upkeep
import Concord.Proofs.Kind.Family
import Concord.Proofs.Kind.Listing
import Concord.Proofs.Unreliable
import Concord.Proofs.Pass.Frame
import Concord.Proofs.Plan.Goal
import Concord.Proofs.Plan.Interruption
import Concord.Proofs.Pass.Turns
import Concord.Proofs.Pass.Attempts
import Concord.Proofs.Pass.Account
import Concord.Proofs.Pass.Failure
import Concord.Proofs.Pass.Effect
import Concord.Proofs.Pass.Convergence
import Concord.Proofs.Pass.Isolation
import Concord.Proofs.Config.Checks
import Concord.Proofs.Config.Accepted
import Concord.Proofs.Run.Kinds
import Concord.Proofs.Config.Assignment
import Concord.Proofs.Run.Containment
import Concord.Proofs.Run.Deletions
import Concord.Proofs.Run.DryRun
import Concord.Proofs.Run.Isolation
import Concord.Proofs.Run.Protection
import Concord.Proofs.Pass.Readiness
import Concord.Proofs.Run.Idempotence
import Concord.Proofs.Pass.Interruption
import Concord.Proofs.Run.Repair
import Concord.Proofs.Pool.Permits
import Concord.Proofs.FanOut.Moments
import Concord.Proofs.Kind.InTurn
import Concord.Proofs.Run.Addresses
import Concord.Proofs.Diff.Positions
import Concord.Proofs.Registry.History
import Concord.Proofs.Config.Tokens
import Concord.Proofs.Run.Credentials
import Concord.Proofs.Http.Endpoints
import Concord.Proofs.Diff.Classification
import Concord.Proofs.Pass.Conservation
import Concord.Proofs.Decimal.Texts
import Concord.Proofs.Json.Compact
import Concord.Proofs.Run.Recognition
import Concord.Proofs.Options
import Concord.Proofs.Json.Reading
import Concord.Proofs.Payload
import Concord.Proofs.Kind.Written
import Concord.Proofs.Http.Collections
import Concord.Proofs.Http.Outcomes
import Concord.Proofs.Report
import Concord.Proofs.Metrics
import Concord.Proofs.Config.Search
import Concord.Proofs.Config.Document
import Concord.Proofs.Config.RoundTrip
