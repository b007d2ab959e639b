import ExtensionHost.Text.Utf8
import ExtensionHost.Text.Blank
import ExtensionHost.Json.Parser
import ExtensionHost.Wire.Options
import ExtensionHost.Wire.Answers
import ExtensionHost.Document.Edits
import ExtensionHost.Document.Buffer
import ExtensionHost.File.Tree
import ExtensionHost.File.Uri
import ExtensionHost.Settings.Store
import ExtensionHost.Process.Request
import ExtensionHost.Lifecycle.Startup
import ExtensionHost.Lifecycle.Commands
import ExtensionHost.Host.Panel
import ExtensionHost.Task.Journal
import ExtensionHost.Lifecycle.Schedule
import ExtensionHost.Rehearsal.Run
import ExtensionHost.Rpc.Frame
import ExtensionHost.Rpc.Message
import ExtensionHost.Client.Schedule
import ExtensionHost.Client.Launch
import ExtensionHost.Client.Conversation
import ExtensionHost.Rehearsal.Server
import ExtensionHost.Rehearsal.ClientStep
import ExtensionHost.Rehearsal.Shell.Process
import ExtensionHost.Main
import ExtensionHost.Proofs.Lifecycle.Core
import ExtensionHost.Proofs.Lifecycle.Listeners
import ExtensionHost.Proofs.Lifecycle.Steps
import ExtensionHost.Proofs.Lifecycle.Runs
import ExtensionHost.Proofs.Lifecycle.Custody
import ExtensionHost.Proofs.Lifecycle.Orphans
import ExtensionHost.Proofs.Lifecycle.Sequential
import ExtensionHost.Proofs.Lifecycle.Overtaken
import ExtensionHost.Proofs.Lifecycle.Documents
import ExtensionHost.Proofs.Lifecycle.Formatting
import ExtensionHost.Proofs.Lifecycle.Registries
import ExtensionHost.Proofs.Lifecycle.Alterations
import ExtensionHost.Proofs.Lifecycle.Attribution
import ExtensionHost.Proofs.Lifecycle.Arising
import ExtensionHost.Proofs.Lifecycle.Teardown
import ExtensionHost.Proofs.Lifecycle.Epochs
import ExtensionHost.Proofs.Lifecycle.Stale
import ExtensionHost.Proofs.Lifecycle.Reported
import ExtensionHost.Proofs.Lifecycle.Notices
import ExtensionHost.Proofs.Lifecycle.Calls
import ExtensionHost.Proofs.Lifecycle.Addresses
import ExtensionHost.Proofs.Lifecycle.Watching
import ExtensionHost.Proofs.Lifecycle.OnSave
import ExtensionHost.Proofs.Text.Utf8
import ExtensionHost.Proofs.Rpc.Framing
import ExtensionHost.Proofs.Client.Steps
import ExtensionHost.Proofs.Client.Emission
import ExtensionHost.Proofs.Client.Correlation
import ExtensionHost.Proofs.Rpc.Streams
import ExtensionHost.Proofs.Client.Readers
import ExtensionHost.Proofs.Client.Termination
import ExtensionHost.Proofs.Client.Errands
import ExtensionHost.Proofs.Client.Startup
import ExtensionHost.Proofs.Document.Positions
import ExtensionHost.Proofs.Document.Substitution
import ExtensionHost.Proofs.Document.Overflow
import ExtensionHost.Proofs.Document.Conflicts
import ExtensionHost.Proofs.Document.Order
import ExtensionHost.Proofs.Document.Buffers
import ExtensionHost.Proofs.Rpc.Grammar
import ExtensionHost.Proofs.Json.Values
import ExtensionHost.Proofs.Json.Reading
import ExtensionHost.Proofs.Json.Scalars
import ExtensionHost.Proofs.Json.Printing
import ExtensionHost.Proofs.File.Writing
import ExtensionHost.Proofs.Settings.Reopening
import ExtensionHost.Proofs.CommandLine.Settings
import ExtensionHost.Proofs.Lifecycle.ServerEvents
import ExtensionHost.Proofs.Lifecycle.Startups
import ExtensionHost.Proofs.Lifecycle.Gating
import ExtensionHost.Proofs.Lifecycle.Takeovers
import ExtensionHost.Proofs.Lifecycle.Evolution
import ExtensionHost.Proofs.Lifecycle.Failing
import ExtensionHost.Proofs.Lifecycle.Parting
import ExtensionHost.Proofs.Lifecycle.Verdicts
import ExtensionHost.Proofs.Client.EarlierRuns
import ExtensionHost.Proofs.File.FullNames
import ExtensionHost.Proofs.File.Contents
import ExtensionHost.Proofs.Client.Silence
import ExtensionHost.Proofs.Lifecycle.Attending
import ExtensionHost.Proofs.Client.Exchanges
import ExtensionHost.Proofs.CommandLine.Hosting
import ExtensionHost.Proofs.CommandLine.Driving
import ExtensionHost.Proofs.CommandLine.Editing
import ExtensionHost.Proofs.CommandLine.Footprint
import ExtensionHost.Proofs.Client.Overlaps
import ExtensionHost.Proofs.Client.Courses
import ExtensionHost.Proofs.Client.LateRequests
import ExtensionHost.Proofs.Client.Handshake
import ExtensionHost.Proofs.Client.Replies
import ExtensionHost.Proofs.Lifecycle.SettingsOnce
import ExtensionHost.Proofs.Document.Clamping
import ExtensionHost.Proofs.Host.Replacement
import ExtensionHost.Proofs.Task.Failures
import ExtensionHost.Proofs.Settings.Saving
import ExtensionHost.Proofs.Wire.RoundTrips
import ExtensionHost.Proofs.Host.Disposing
import ExtensionHost.Proofs.Host.Listening
import ExtensionHost.Proofs.Lifecycle.Sparing
import ExtensionHost.Proofs.Lifecycle.Dispatching
import ExtensionHost.Proofs.File.Uris
import ExtensionHost.Proofs.CommandLine.References
import ExtensionHost.Proofs.Lifecycle.Accumulation
