import Messenger.Frame.Stream
import Messenger.Packet.Fragments
import Messenger.Text.LowerCase
import Messenger.Text.Numeral
import Messenger.Text.Duration
import Messenger.Auth.Challenge
import Messenger.Event.Callback
import Messenger.Event.Describe
import Messenger.Event.Queue
import Messenger.Dispatch.Registry
import Messenger.Outbound.Outbox
import Messenger.Conference.Requests
import Messenger.Session.Handlers
import Messenger.Session.Run
import Messenger.Configuration.File
import Messenger.Main
import Messenger.Proofs.Frame.RoundTrip
import Messenger.Proofs.Frame.Stream
import Messenger.Proofs.Frame.Faults
import Messenger.Proofs.Frame.Acceptance
import Messenger.Proofs.Packet.Pieces
import Messenger.Proofs.Packet.Reassembly
import Messenger.Proofs.Session.Handshake
import Messenger.Proofs.Session.Background
import Messenger.Proofs.Session.FreshStart
import Messenger.Proofs.Dispatch.Cycles
import Messenger.Proofs.Event.Restarts
import Messenger.Proofs.Conference.Departure
import Messenger.Proofs.Conference.Opening
import Messenger.Proofs.Conference.Separation
import Messenger.Proofs.Outbound.Account
import Messenger.Proofs.Session.Setback
import Messenger.Proofs.Session.LoggedOn
import Messenger.Proofs.Session.Rooms
import Messenger.Proofs.Session.Overlap
import Messenger.Proofs.Session.Presence
import Messenger.Proofs.Session.Stamps
import Messenger.Proofs.Session.Response
import Messenger.Proofs.Session.Deadline
import Messenger.Proofs.Session.Rejection
import Messenger.Proofs.Conference.Membership
import Messenger.Proofs.Dispatch.Routing
import Messenger.Proofs.Outbound.Timetable
import Messenger.Proofs.Auth.Mixing
import Messenger.Proofs.Auth.Rendering
import Messenger.Proofs.Auth.Decoding
import Messenger.Proofs.Auth.Bounds
import Messenger.Proofs.Auth.DigestText
import Messenger.Proofs.Event.Wording
import Messenger.Proofs.Event.Lines
import Messenger.Proofs.Configuration.Saved
import Messenger.Proofs.Configuration.Overlay
