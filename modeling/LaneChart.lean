import LaneChart.Main
import LaneChart.Proofs.Diagram.RoundTrip
import LaneChart.Proofs.Session.Loading
import LaneChart.Proofs.Session.Saving
import LaneChart.Proofs.Workflow.Placement
import LaneChart.Session.Record
import LaneChart.Proofs.Markup.Unambiguous
import LaneChart.Proofs.Diagram.Unambiguous
import LaneChart.Proofs.Desk.Staging
import LaneChart.Proofs.Session.Restart
import LaneChart.Proofs.Json.RoundTrip
import LaneChart.Proofs.Json.Sorting
import LaneChart.Proofs.Workflow.Coercion
import LaneChart.Proofs.Json.Extent
import LaneChart.Proofs.Workflow.Plans
import LaneChart.Proofs.Desk.Normalizing
import LaneChart.Proofs.Session.Events
import LaneChart.Proofs.Session.Phases
import LaneChart.Proofs.Session.Faults
import LaneChart.Proofs.Diagram.FirstProcess
import LaneChart.Proofs.Session.Timeline
import LaneChart.Proofs.Workflow.Membership
import LaneChart.Proofs.Session.Abreast
import LaneChart.Proofs.Desk.Current
import LaneChart.Proofs.Desk.History
import LaneChart.Proofs.Diagram.Identity
import LaneChart.Proofs.Diagram.Accepted
import LaneChart.Proofs.Workflow.Rule
import LaneChart.Proofs.Json.Surroundings
import LaneChart.Proofs.Text.Span
import LaneChart.Proofs.Workflow.Prose
import LaneChart.Proofs.Desk.Shared
import LaneChart.Proofs.Slots.Steps
import LaneChart.Proofs.Slots.Race
import LaneChart.Proofs.Session.Refusals
import LaneChart.Proofs.Session.HalfSaved
import LaneChart.Proofs.Session.Patching
import LaneChart.Proofs.Diagram.Drawing
import LaneChart.Proofs.Session.Listening
import LaneChart.Proofs.Record.Reading
import LaneChart.Proofs.Record.Decoding
import LaneChart.Proofs.Record.Rewriting
import LaneChart.Proofs.Settings.Merging
import LaneChart.Proofs.Json.Reprinting
import LaneChart.Proofs.Settings.Setup
import LaneChart.Proofs.Slots.Setting
import LaneChart.Proofs.Workflow.Turns
import LaneChart.Proofs.Session.Announcing
import LaneChart.Proofs.Diagram.Foreign
import LaneChart.Proofs.Markup.Coding
