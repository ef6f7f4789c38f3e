import SamplePlayer.Json.Writer
import SamplePlayer.Main
import SamplePlayer.Playback
import SamplePlayer.Scheduling
import SamplePlayer.Text.Numeric
import SamplePlayer.Proofs.Epoch
import SamplePlayer.Proofs.Pool.Change
import SamplePlayer.Proofs.Pool.Sound
import SamplePlayer.Proofs.Trace
import SamplePlayer.Proofs.Recording
import SamplePlayer.Proofs.Clip.Calls
import SamplePlayer.Proofs.Clip.Requests
import SamplePlayer.Proofs.Desk
import SamplePlayer.Proofs.Lifecycle
import SamplePlayer.Proofs.Mixing
import SamplePlayer.Proofs.Stream
import SamplePlayer.Proofs.Epoch.Contention
import SamplePlayer.Proofs.Delivery
import SamplePlayer.Proofs.Number.Rounding
import SamplePlayer.Proofs.Number.Packing
import SamplePlayer.Proofs.Number.Arithmetic
import SamplePlayer.Proofs.Number.Double
import SamplePlayer.Proofs.Resample
import SamplePlayer.Proofs.Loading
import SamplePlayer.Proofs.Clip.Rejection
import SamplePlayer.Proofs.Independence
import SamplePlayer.Proofs.Alike
import SamplePlayer.Proofs.Concealment
import SamplePlayer.Proofs.Playback.Sessions
import SamplePlayer.Proofs.Number.Single
import SamplePlayer.Proofs.Wave.Words
import SamplePlayer.Proofs.Files
import SamplePlayer.Proofs.Wave.Writing
import SamplePlayer.Proofs.Wave.Reading
import SamplePlayer.Proofs.Wave.Rendering
import SamplePlayer.Proofs.Playback.Verdicts
import SamplePlayer.Proofs.Playback.Shift
import SamplePlayer.Proofs.Number.Selection
import SamplePlayer.Proofs.Reading
import SamplePlayer.Proofs.Itinerary
import SamplePlayer.Proofs.Ramp
import SamplePlayer.Proofs.Clip.Outcomes
import SamplePlayer.Proofs.Desk.Moves
import SamplePlayer.Proofs.Desk.Works
import SamplePlayer.Proofs.Safety
import SamplePlayer.Proofs.Ring.Uses
import SamplePlayer.Proofs.Ramp.Approach
import SamplePlayer.Proofs.Convergence
import SamplePlayer.Proofs.Loops
import SamplePlayer.Proofs.Launch
import SamplePlayer.Proofs.Encoding
import SamplePlayer.Proofs.Announcements
import SamplePlayer.Proofs.Wave.Abandonment
import SamplePlayer.Proofs.Wave.Reopening
import SamplePlayer.Proofs.Sides
import SamplePlayer.Proofs.Channels
import SamplePlayer.Proofs.Settings
