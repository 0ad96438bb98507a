import Switchboard.Client.Script
import Switchboard.Console.Lines
import Switchboard.Main
import Switchboard.Options.CommandLine
import Switchboard.Presenter.Screen
import Switchboard.Remote.Download
import Switchboard.Proofs.Roster.Lookup
import Switchboard.Proofs.Roster.Row
import Switchboard.Proofs.Roster.Tidy
import Switchboard.Proofs.Roster.Cases
import Switchboard.Proofs.Roster.WellFormed
import Switchboard.Proofs.Desk.Act
import Switchboard.Proofs.Desk.Move
import Switchboard.Proofs.Roster.Holdings
import Switchboard.Proofs.Session.Owners
import Switchboard.Proofs.Desk.Coherence
import Switchboard.Proofs.Desk.Output
import Switchboard.Proofs.Event.Mirror
import Switchboard.Proofs.Event.Delivery
import Switchboard.Proofs.Desk.Announcement
import Switchboard.Proofs.Roster.Outline
import Switchboard.Proofs.Roster.Refinement
import Switchboard.Proofs.Roster.Binding
import Switchboard.Proofs.Desk.History
import Switchboard.Proofs.Desk.Ending
import Switchboard.Proofs.Roster.Waiting
import Switchboard.Proofs.Roster.Succession
import Switchboard.Proofs.Desk.Waiting
import Switchboard.Proofs.Desk.Audience
import Switchboard.Proofs.Desk.Closing
import Switchboard.Proofs.Desk.Miss
import Switchboard.Proofs.Desk.Succession
import Switchboard.Proofs.Desk.Canvas
import Switchboard.Proofs.Desk.Files
import Switchboard.Proofs.Desk.Resizing
import Switchboard.Proofs.Client.Delivery
import Switchboard.Proofs.Client.Resizing
import Switchboard.Proofs.Client.Coalescing
import Switchboard.Proofs.Client.Noise
import Switchboard.Proofs.Client.Schedule
import Switchboard.Proofs.Client.Reconnect
import Switchboard.Proofs.Client.Visit
import Switchboard.Proofs.Number.Digits
import Switchboard.Proofs.Json.Quoting
import Switchboard.Proofs.Json.Scanning
import Switchboard.Proofs.Json.RoundTrip
import Switchboard.Proofs.Wire.RequestCodec
import Switchboard.Proofs.Wire.ReportCodec
import Switchboard.Proofs.Console.Description
import Switchboard.Proofs.Desk.Commands
import Switchboard.Proofs.Desk.Masking
import Switchboard.Proofs.Desk.Interference
import Switchboard.Proofs.Roster.Bystanders
import Switchboard.Proofs.Desk.Bystanders
import Switchboard.Proofs.Remote.Path
import Switchboard.Proofs.Remote.Walk
import Switchboard.Proofs.Desk.Addressing
import Switchboard.Proofs.Event.Attendance
import Switchboard.Proofs.Desk.Hearing
import Switchboard.Proofs.Json.Members
import Switchboard.Proofs.Wire.Classification
import Switchboard.Proofs.Session.Ring
import Switchboard.Proofs.Remote.Download
import Switchboard.Proofs.Desk.Screen
import Switchboard.Proofs.Remote.Joining
import Switchboard.Proofs.Session.Browsing
import Switchboard.Remote.Reckoning
import Switchboard.Proofs.Remote.Calendar
import Switchboard.Proofs.Remote.Timestamp
import Switchboard.Proofs.Text.Words
import Switchboard.Proofs.Console.Opening
import Switchboard.Proofs.Text.Trim
import Switchboard.Proofs.Options.Endpoints
import Switchboard.Proofs.Remote.FileName
import Switchboard.Proofs.Console.Lines
import Switchboard.Proofs.Console.Grammar
import Switchboard.Proofs.Number.Rounding
import Switchboard.Proofs.Remote.ByteCount
