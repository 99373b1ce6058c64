import Cutover.Address
import Cutover.Address.Fault
import Cutover.Address.Number
import Cutover.Assembly
import Cutover.Decimal.Double
import Cutover.Decimal.Numeral
import Cutover.Decimal.Quantity
import Cutover.Decimal.Shortest
import Cutover.Fault
import Cutover.Fault.Class
import Cutover.Fault.Form
import Cutover.Fault.Report
import Cutover.Form
import Cutover.Fragment
import Cutover.HostName
import Cutover.HostName.Alphabet
import Cutover.HostName.Context
import Cutover.Mode
import Cutover.Notice
import Cutover.Phase
import Cutover.Proofs.Assembly.Completeness
import Cutover.Proofs.Assembly.Visibility
import Cutover.Proofs.Control.Abandoning
import Cutover.Proofs.Control.Abreast
import Cutover.Proofs.Control.Agreement
import Cutover.Proofs.Control.Alike
import Cutover.Proofs.Control.Applying
import Cutover.Proofs.Control.Around
import Cutover.Proofs.Control.Asking
import Cutover.Proofs.Control.Blind
import Cutover.Proofs.Control.Calling
import Cutover.Proofs.Control.Core
import Cutover.Proofs.Control.Desk
import Cutover.Proofs.Control.Custody
import Cutover.Proofs.Control.Drafting
import Cutover.Proofs.Control.Ending
import Cutover.Proofs.Control.Following
import Cutover.Proofs.Control.Heedless
import Cutover.Proofs.Control.Holding
import Cutover.Proofs.Control.Inside
import Cutover.Proofs.Control.Journal
import Cutover.Proofs.Control.Lawful
import Cutover.Proofs.Control.Looping
import Cutover.Proofs.Control.Noting
import Cutover.Proofs.Control.Operations
import Cutover.Proofs.Control.Ordering
import Cutover.Proofs.Control.Polling
import Cutover.Proofs.Control.Publishing
import Cutover.Proofs.Control.Repeating
import Cutover.Proofs.Control.Restoring
import Cutover.Proofs.Control.Section
import Cutover.Proofs.Control.Setting
import Cutover.Proofs.Control.Sharing
import Cutover.Proofs.Control.Sheet
import Cutover.Proofs.Control.Silent
import Cutover.Proofs.Control.Sparing
import Cutover.Proofs.Control.Stocking
import Cutover.Proofs.Control.Teardown
import Cutover.Proofs.Control.Telling
import Cutover.Proofs.Control.Touching
import Cutover.Proofs.Control.Viewing
import Cutover.Proofs.Decimal.Ceiling
import Cutover.Proofs.Notice.Log
import Cutover.Proofs.Notice.Looking
import Cutover.Proofs.Record.RoundTrip
import Cutover.Proofs.Request.Carrying
import Cutover.Proofs.Resource.Paging
import Cutover.Proofs.RunState.Confined
import Cutover.Proofs.RunState.Course
import Cutover.Proofs.RunState.Lawful
import Cutover.Proofs.RunState.Messages
import Cutover.Proofs.RunState.Milestones
import Cutover.Proofs.RunState.Order
import Cutover.Proofs.RunState.Skipping
import Cutover.Proofs.RunState.Soundness
import Cutover.Proofs.Service.Classes
import Cutover.Proofs.Service.Names
import Cutover.Proofs.Shard.Collecting
import Cutover.Proofs.Shard.Nulls
import Cutover.Proofs.Store.Interchange
import Cutover.Proofs.Store.Lossless
import Cutover.Proofs.Store.Whole
import Cutover.Proofs.Value.Entries
import Cutover.Proofs.Work.Accord
import Cutover.Proofs.Work.Contract
import Cutover.Proofs.Work.Tickets
import Cutover.Proofs.Work.Touching
import Cutover.Proofs.World.Abandoning
import Cutover.Proofs.World.Accord
import Cutover.Proofs.World.Agreement
import Cutover.Proofs.World.Alone
import Cutover.Proofs.World.Asking
import Cutover.Proofs.World.Astir
import Cutover.Proofs.World.AtOnce
import Cutover.Proofs.World.Broadcast
import Cutover.Proofs.World.Classifying
import Cutover.Proofs.World.Completing
import Cutover.Proofs.World.Custody
import Cutover.Proofs.World.Desk
import Cutover.Proofs.World.Diary
import Cutover.Proofs.World.Doing
import Cutover.Proofs.World.Drafting
import Cutover.Proofs.World.Effects
import Cutover.Proofs.World.Elapsing
import Cutover.Proofs.World.Ending
import Cutover.Proofs.World.Enduring
import Cutover.Proofs.World.Failing
import Cutover.Proofs.World.Faithful
import Cutover.Proofs.World.Fetching
import Cutover.Proofs.World.Forward
import Cutover.Proofs.World.Gathering
import Cutover.Proofs.World.Hearing
import Cutover.Proofs.World.History
import Cutover.Proofs.World.Hushed
import Cutover.Proofs.World.InTurn
import Cutover.Proofs.World.Inside
import Cutover.Proofs.World.Launching
import Cutover.Proofs.World.Lawful
import Cutover.Proofs.World.Listening
import Cutover.Proofs.World.Listing
import Cutover.Proofs.World.Lockstep
import Cutover.Proofs.World.Looping
import Cutover.Proofs.World.Milestones
import Cutover.Proofs.World.Mirror
import Cutover.Proofs.World.OneLoop
import Cutover.Proofs.World.OneRequest
import Cutover.Proofs.World.Onward
import Cutover.Proofs.World.Opening
import Cutover.Proofs.World.Pacing
import Cutover.Proofs.World.Playing
import Cutover.Proofs.World.Readers
import Cutover.Proofs.World.Reading
import Cutover.Proofs.World.Restart
import Cutover.Proofs.World.Restoring
import Cutover.Proofs.World.Resuming
import Cutover.Proofs.World.Retry
import Cutover.Proofs.World.Rounds
import Cutover.Proofs.World.Sending
import Cutover.Proofs.World.Settling
import Cutover.Proofs.World.Sharing
import Cutover.Proofs.World.Stocking
import Cutover.Proofs.World.Storing
import Cutover.Proofs.World.Streaming
import Cutover.Proofs.World.Teardown
import Cutover.Proofs.World.Touching
import Cutover.Proofs.World.Turning
import Cutover.Proofs.World.Twins
import Cutover.Proofs.World.Unbroken
import Cutover.Proofs.World.Waking
import Cutover.Record
import Cutover.Record.Form
import Cutover.Request
import Cutover.Resource
import Cutover.Resource.Page
import Cutover.RunState
import Cutover.RunState.Transition
import Cutover.Service.Answer
import Cutover.Service.Document
import Cutover.Service.Lenient
import Cutover.Service.Reading
import Cutover.Service.Script
import Cutover.Session
import Cutover.Session.Action
import Cutover.Session.Background
import Cutover.Session.Calling
import Cutover.Session.Conducting
import Cutover.Session.Configuring
import Cutover.Session.Controlling
import Cutover.Session.Gate
import Cutover.Session.Polling
import Cutover.Session.Storing
import Cutover.Session.Work
import Cutover.Settings
import Cutover.Settings.EnvFile
import Cutover.Settings.Policy
import Cutover.Shard
import Cutover.Status
import Cutover.Store
import Cutover.Store.Rows
import Cutover.Summary
import Cutover.Text.Blank
import Cutover.Text.Composition
import Cutover.Text.Digit
import Cutover.Text.Encoding
import Cutover.Text.LowerCase
import Cutover.Text.Printable
import Cutover.Text.Punycode
import Cutover.Text.Quoted
import Cutover.Trace
import Cutover.Trace.Tracer
import Cutover.Value
import Cutover.Value.Reader
import Cutover.Value.Writer
import Cutover.Vocabulary
import Cutover.World
import Cutover.World.Observation
import Cutover.World.Running
import Cutover.World.Scenario
import Cutover.World.Timing
