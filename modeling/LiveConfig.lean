import LiveConfig.ChangeSet
import LiveConfig.Text.Blank
import LiveConfig.Text.Quoted
import LiveConfig.Number.FloatText
import LiveConfig.Duration
import LiveConfig.Json.Value
import LiveConfig.Json.Tree
import LiveConfig.Json.Reader
import LiveConfig.Json.Printer
import LiveConfig.Properties.Reader
import LiveConfig.Properties.Writer
import LiveConfig.Yaml.ScalarText
import LiveConfig.Yaml.TokenStream
import LiveConfig.Yaml.Node
import LiveConfig.Yaml.Document
import LiveConfig.Format
import LiveConfig.Namespace
import LiveConfig.Url.Encoding
import LiveConfig.Url.NameMapping
import LiveConfig.Url.DomainName
import LiveConfig.Url.Punycode
import LiveConfig.Url.Host
import LiveConfig.Url.Path
import LiveConfig.Url.Address
import LiveConfig.Backoff
import LiveConfig.TokenBucket
import LiveConfig.Health
import LiveConfig.Telemetry
import LiveConfig.Status
import LiveConfig.Config.Basic
import LiveConfig.Config.Settings
import LiveConfig.Json.Record
import LiveConfig.Notify.Messages
import LiveConfig.Notify.Notification
import LiveConfig.Http.Error
import LiveConfig.View.Listeners
import LiveConfig.View.Parsed
import LiveConfig.View.Basic
import LiveConfig.Cache.Files
import LiveConfig.Cache.Record
import LiveConfig.Cache.Store
import LiveConfig.Cache.Steps
import LiveConfig.Discovery.Endpoint
import LiveConfig.Discovery.Locator
import LiveConfig.Fetch.Request
import LiveConfig.Fetch.Rotation
import LiveConfig.Permits
import LiveConfig.Log
import LiveConfig.Discovery.Calls
import LiveConfig.Discovery.Run
import LiveConfig.Notify.Channel
import LiveConfig.Notify.Calls
import LiveConfig.Sync.Event
import LiveConfig.View.Calls
import LiveConfig.Sync.Refresh
import LiveConfig.Sync.Machine
import LiveConfig.Sync.Run
import LiveConfig.Registry
import LiveConfig.Simulation.Activity
import LiveConfig.Simulation.Backend
import LiveConfig.Simulation.World
import LiveConfig.Simulation.Client
import LiveConfig.View.Query
import LiveConfig.Config.Parts
import LiveConfig.Scenario.Limits
import LiveConfig.Scenario.Failures
import LiveConfig.Scenario.Exchange
import LiveConfig.Scenario.Instances
import LiveConfig.Scenario.Notices
import LiveConfig.Scenario.Session
import LiveConfig.Scenario.Delays
import LiveConfig.Scenario.Disk
import LiveConfig.Proofs.Entries
import LiveConfig.Proofs.ChangeSet
import LiveConfig.Proofs.Difference
import LiveConfig.Proofs.Sync.Step
import LiveConfig.Proofs.Sync.Delivery
import LiveConfig.Proofs.Sync.Announcements
import LiveConfig.Proofs.Sync.Lock
import LiveConfig.Proofs.Sync.Wake
import LiveConfig.Proofs.Notify.Dispatch
import LiveConfig.Proofs.Notify.Dedup
import LiveConfig.Proofs.Json.RoundTrip
import LiveConfig.Proofs.Properties.RoundTrip
import LiveConfig.Proofs.Cache.Saving
import LiveConfig.Proofs.Cache.Order
import LiveConfig.Proofs.Cache.Paths
import LiveConfig.Proofs.Fetch.Results
import LiveConfig.Proofs.Sync.Course
import LiveConfig.Proofs.Sync.Commit
import LiveConfig.Proofs.Sync.Provenance
import LiveConfig.Proofs.Sync.Staleness
import LiveConfig.Simulation.Run
import LiveConfig.Proofs.Sync.Abandoned
import LiveConfig.Proofs.Sync.Durability
import LiveConfig.Proofs.Namespace
import LiveConfig.Proofs.Cache.Crash
import LiveConfig.Proofs.Registry
import LiveConfig.Proofs.Registry.Books
import LiveConfig.Proofs.Client.Step
import LiveConfig.Proofs.Client.Registration
import LiveConfig.Proofs.Client.Workers
import LiveConfig.Proofs.Client.Loading
import LiveConfig.Proofs.Client.Names
import LiveConfig.Proofs.Document.Names
import LiveConfig.Proofs.Document.Parsed
import LiveConfig.Proofs.Document.Flattening
import LiveConfig.Proofs.Properties.Grammar
import LiveConfig.Proofs.Url.Path
import LiveConfig.Proofs.Url.Address
import LiveConfig.Proofs.Fetch.Address
import LiveConfig.Proofs.Fetch.Account
import LiveConfig.Proofs.Discovery.Step
import LiveConfig.Proofs.Discovery.Spacing
import LiveConfig.Proofs.Client.Activity
import LiveConfig.Proofs.Client.Discovery
import LiveConfig.Proofs.Discovery.Availability
import LiveConfig.Proofs.View.Registry
import LiveConfig.Proofs.View.Delivery
import LiveConfig.Proofs.Sync.Dispatch
import LiveConfig.Proofs.View.Listening
import LiveConfig.Proofs.Cache.Identity
import LiveConfig.Proofs.Number.Order
import LiveConfig.Proofs.Config.Sanitise
import LiveConfig.Proofs.Config.Settings
import LiveConfig.Proofs.Backoff
import LiveConfig.Proofs.TokenBucket
import LiveConfig.Proofs.Format
import LiveConfig.Proofs.Properties.Escapes
import LiveConfig.Proofs.Properties.CodeUnits
import LiveConfig.Proofs.Sync.Reports
import LiveConfig.Proofs.Sync.Accounting
import LiveConfig.Proofs.FailureLog
import LiveConfig.Proofs.Sync.Warnings
