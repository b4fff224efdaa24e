import A2dpSink.Sdp.AudioRecord
import A2dpSink.Settings.Read
import A2dpSink.Simulation.Command
import A2dpSink.Proofs.Sdp.Element.RoundTrip
import A2dpSink.Proofs.Sdp.Reply
import A2dpSink.Proofs.Sdp.Dialogue
import A2dpSink.Proofs.Sdp.Framing
import A2dpSink.Proofs.Sdp.Following
import A2dpSink.Proofs.Discovery.Outcomes
import A2dpSink.Proofs.Discovery.Sound
import A2dpSink.Proofs.Attachment.Tasks
import A2dpSink.Proofs.Discovery.Effects
import A2dpSink.Proofs.Attachment.Moves
import A2dpSink.Proofs.Attachment.Sound
import A2dpSink.Proofs.Attachment.Steps
import A2dpSink.Proofs.Attachment.Stranded
import A2dpSink.Proofs.Attachment.Reports
import A2dpSink.Proofs.Attachment.Rediscovery
import A2dpSink.Proofs.Discovery.Rounds
import A2dpSink.Proofs.Discovery.Endings
import A2dpSink.Proofs.Pool.Runs
import A2dpSink.Proofs.Pool.Order
import A2dpSink.Proofs.Pool.Progress
import A2dpSink.Proofs.Attachment.Findings
import A2dpSink.Proofs.Attachment.Attempts
import A2dpSink.Proofs.Attachment.Guarded
import A2dpSink.Proofs.Attachment.Clearing
import A2dpSink.Proofs.Attachment.Settled
import A2dpSink.Proofs.Attachment.Closing
import A2dpSink.Proofs.Controller.Runs
import A2dpSink.Proofs.Controller.Closing
import A2dpSink.Proofs.Sdp.Bounded
import A2dpSink.Proofs.Sdp.Boundary
import A2dpSink.Proofs.Sdp.Requests
import A2dpSink.Proofs.Sdp.Safety
import A2dpSink.Proofs.Simulation.Agreement
import A2dpSink.Proofs.Simulation.Carried
import A2dpSink.Proofs.Attachment.Described
import A2dpSink.Proofs.Attachment.Dropping
import A2dpSink.Proofs.Attachment.Attached
import A2dpSink.Proofs.Attachment.Redundant
import A2dpSink.Proofs.Sink.Managed
import A2dpSink.Proofs.Sdp.Element.Canonical
import A2dpSink.Proofs.Sdp.Record.AttributeLists
import A2dpSink.Proofs.Sdp.Record.Respelling
import A2dpSink.Proofs.AudioService.Decision
import A2dpSink.Proofs.Sdp.Element.Extent
import A2dpSink.Proofs.Settings.Provided
import A2dpSink.Proofs.Transport.Calls
import A2dpSink.Proofs.Simulation.Uncut
import A2dpSink.Proofs.Address
import A2dpSink.Proofs.AudioService.Publishing
import A2dpSink.Proofs.Sdp.Element.Layout
