import PuppetRegistry.Main
import PuppetRegistry.Program.Interleaving
import PuppetRegistry.Text.Line
import PuppetRegistry.UserId
import PuppetRegistry.Text.Utf8
import PuppetRegistry.Proofs.Program.Crowd
import PuppetRegistry.Proofs.Program.Within
import PuppetRegistry.Proofs.Program.Along
import PuppetRegistry.Proofs.Sqlite.Ready
import PuppetRegistry.Proofs.Activity.Stretches
import PuppetRegistry.Proofs.Activity.Window
import PuppetRegistry.Proofs.Activity.Course
import PuppetRegistry.Proofs.Activity.Scene
import PuppetRegistry.Proofs.Activity.Pending
import PuppetRegistry.Proofs.Activity.Lossless
import PuppetRegistry.Proofs.Activity.Outcome
import PuppetRegistry.Proofs.Activity.Upkeep
import PuppetRegistry.Proofs.Binary64.Truncation
import PuppetRegistry.Proofs.ContentUri
import PuppetRegistry.Proofs.Seconds
import PuppetRegistry.Proofs.Puppet.Normal
import PuppetRegistry.Proofs.Sqlite.Saving
import PuppetRegistry.Proofs.Sqlite.Writes
import PuppetRegistry.Proofs.Sqlite.Legible
import PuppetRegistry.Proofs.Sqlite.Refusals
import PuppetRegistry.Proofs.Access.Calls
import PuppetRegistry.Proofs.Access.Stored
import PuppetRegistry.Proofs.Access.Names
import PuppetRegistry.Proofs.Access.Coherence
import PuppetRegistry.Proofs.Access.Absence
import PuppetRegistry.Proofs.Program.Inquiries
import PuppetRegistry.Proofs.Access.Merging
import PuppetRegistry.Proofs.Access.Unlinking
import PuppetRegistry.Proofs.Access.Creation
import PuppetRegistry.Proofs.Access.Expected
import PuppetRegistry.Proofs.Access.Freshness
import PuppetRegistry.Proofs.Postgres.Bootstrap
import PuppetRegistry.Proofs.Postgres.Lifecycle
import PuppetRegistry.Proofs.Puppet.Alike
import PuppetRegistry.Proofs.Program.Alike
import PuppetRegistry.Proofs.Access.Alike
import PuppetRegistry.Proofs.Postgres.Alike
import PuppetRegistry.Proofs.Sqlite.Alike
import PuppetRegistry.Proofs.Sqlite.AlikeDisks
import PuppetRegistry.Proofs.CommandLine.Alike
import PuppetRegistry.Proofs.CommandLine.Secrecy
import PuppetRegistry.Proofs.Twins
import PuppetRegistry.Proofs.Sqlite.AlikeConnections
import PuppetRegistry.Proofs.CommandLine.Session
import PuppetRegistry.Proofs.Cell
import PuppetRegistry.Proofs.Disk
import PuppetRegistry.Proofs.RemoteId
import PuppetRegistry.Proofs.Numeral
import PuppetRegistry.Proofs.Puppet.Decoding
import PuppetRegistry.Proofs.Text.Trimming
import PuppetRegistry.Proofs.Program.Ending
import PuppetRegistry.Proofs.Sqlite.Lookups
import PuppetRegistry.Proofs.Sqlite.Dealings
import PuppetRegistry.Proofs.Sqlite.Beside
import PuppetRegistry.Proofs.Sqlite.Opening
import PuppetRegistry.Proofs.Sqlite.Connections
import PuppetRegistry.Proofs.Access.Racing
import PuppetRegistry.Proofs.CommandLine.Views
import PuppetRegistry.Proofs.Sqlite.RoundTrips
import PuppetRegistry.Proofs.CommandLine.Disturbed
import PuppetRegistry.Proofs.Sqlite.Kept
import PuppetRegistry.Proofs.Sqlite.Initialising
import PuppetRegistry.Proofs.Sqlite.Reinitialising
import PuppetRegistry.Proofs.Binary64.Order
import PuppetRegistry.Proofs.Moment
import PuppetRegistry.Proofs.Path
import PuppetRegistry.Proofs.Settings
import PuppetRegistry.Proofs.UserId
import PuppetRegistry.Proofs.Sqlite.Placeholder
import PuppetRegistry.Proofs.Text.Quoted
import PuppetRegistry.Proofs.Puppet.Summary
