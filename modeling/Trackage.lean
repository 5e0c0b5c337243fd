import Trackage.Allocation.Basic
import Trackage.Console.Page
import Trackage.Generator.Benchmark
import Trackage.Location.Set
import Trackage.Main
import Trackage.Proofs.Allocation.Boundary
import Trackage.Proofs.Allocation.Dominance
import Trackage.Proofs.Allocation.Invariance
import Trackage.Proofs.Allocation.Lengths
import Trackage.Proofs.Allocation.Monotone
import Trackage.Proofs.Allocation.Offsets
import Trackage.Proofs.Allocation.Optimality
import Trackage.Proofs.Allocation.Outcomes
import Trackage.Proofs.Console.RouteText
import Trackage.Proofs.Decimal.Range
import Trackage.Proofs.Decimal.Rounding
import Trackage.Proofs.Decimal.Shortest
import Trackage.Proofs.Generator.Scenario
import Trackage.Proofs.Json.Kept
import Trackage.Proofs.Json.Number
import Trackage.Proofs.Json.Text
import Trackage.Proofs.Location.Count
import Trackage.Proofs.Location.Membership
import Trackage.Proofs.Payload.Kept
import Trackage.Proofs.Payload.RoundTrip
import Trackage.Proofs.Payload.Shown
import Trackage.Proofs.Railway.Batch
import Trackage.Proofs.Railway.Bookkeeping
import Trackage.Proofs.Railway.Farthest
import Trackage.Proofs.Railway.Forecast
import Trackage.Proofs.Railway.Rest
import Trackage.Proofs.Railway.Turns
import Trackage.Proofs.Route.Intervals
import Trackage.Proofs.Route.Joints
import Trackage.Proofs.Route.Parts
import Trackage.Proofs.Route.Points
import Trackage.Proofs.Scenario.Gate
import Trackage.Proofs.Segment.Expansion
import Trackage.Proofs.Service.Answers
import Trackage.Proofs.Service.Archive
import Trackage.Proofs.Service.Body
import Trackage.Proofs.Service.Coherence
import Trackage.Proofs.Service.Forecast
import Trackage.Proofs.Service.Isolation
import Trackage.Proofs.Service.Numbering
import Trackage.Proofs.Service.OneShot
import Trackage.Proofs.Service.Refusal
import Trackage.Proofs.Service.Routes
import Trackage.Proofs.Service.Schematic
import Trackage.Proofs.Service.Step
import Trackage.Proofs.Store.Listing
import Trackage.Proofs.Track.Grammar
import Trackage.Proofs.Track.Reading
import Trackage.Proofs.Track.RoundTrip
import Trackage.Store.Basic
import Trackage.Store.Command
