import SpriteStage.Actor
import SpriteStage.Actor.Cast
import SpriteStage.Actor.Palette
import SpriteStage.Actor.Pose
import SpriteStage.Block.Forest
import SpriteStage.Block.Kind
import SpriteStage.Block.Parameter
import SpriteStage.Codec.Block
import SpriteStage.Codec.Format
import SpriteStage.Codec.Scene
import SpriteStage.Codec.Stage
import SpriteStage.CommandLine
import SpriteStage.Drop
import SpriteStage.Event
import SpriteStage.Identity
import SpriteStage.Identity.Supply
import SpriteStage.Identity.Text
import SpriteStage.Instant
import SpriteStage.Json
import SpriteStage.Json.Fields
import SpriteStage.Json.Numeral
import SpriteStage.Json.Printer
import SpriteStage.Json.Reader
import SpriteStage.Json.Text
import SpriteStage.Loading
import SpriteStage.Main
import SpriteStage.Number.Binary
import SpriteStage.Number.Distance
import SpriteStage.Number.Layout
import SpriteStage.Number.Numeral
import SpriteStage.Number.Remainder
import SpriteStage.Number.Rounding
import SpriteStage.Number.Shortest
import SpriteStage.Overlap
import SpriteStage.Programs
import SpriteStage.Progress
import SpriteStage.Proofs.Block.Nodes
import SpriteStage.Random.ChaCha
import SpriteStage.Random.Draws
import SpriteStage.Refusal
import SpriteStage.Report
import SpriteStage.Scene
import SpriteStage.Settings
import SpriteStage.Stage
import SpriteStage.Table
import SpriteStage.Text.Blank
import SpriteStage.Timeline
import SpriteStage.Timeline.Feed
import SpriteStage.Walk
import SpriteStage.World
import SpriteStage.World.Edit
import SpriteStage.World.Run
import SpriteStage.World.Snapshot
import SpriteStage.Proofs.Progress.Lookup
import SpriteStage.Proofs.Actor.Lookup
import SpriteStage.Proofs.Walk.Frame
import SpriteStage.Proofs.Walk.Schedule
import SpriteStage.Proofs.Walk.Trace
import SpriteStage.Proofs.Block.Placement
import SpriteStage.Proofs.Block.Pruning
import SpriteStage.Proofs.Block.Revision
import SpriteStage.Proofs.Programs.Lookup
import SpriteStage.Proofs.Programs.Soundness
import SpriteStage.Proofs.World.Frame
import SpriteStage.Proofs.World.History
import SpriteStage.Proofs.World.Edit
import SpriteStage.Proofs.World.Soundness
import SpriteStage.Proofs.Progress.Soundness
import SpriteStage.Proofs.Walk.Soundness
import SpriteStage.Proofs.World.Tracking
import SpriteStage.Proofs.World.Arrivals
import SpriteStage.Proofs.Number.Difference
import SpriteStage.Proofs.Number.Shortest
import SpriteStage.Proofs.Overlap
import SpriteStage.Proofs.Overlap.Scan
import SpriteStage.Proofs.World.Sweep
import SpriteStage.Proofs.World.Encounters
import SpriteStage.Proofs.Programs.Refusal
import SpriteStage.Proofs.World.Refusal
import SpriteStage.Proofs.Walk.Execution
import SpriteStage.Proofs.World.Round
import SpriteStage.Proofs.Walk.Congruence
import SpriteStage.Proofs.Programs.Seclusion
import SpriteStage.Proofs.World.Agreement
import SpriteStage.Proofs.World.Bystanders
import SpriteStage.Proofs.World.Order
import SpriteStage.Proofs.World.Turns
import SpriteStage.Proofs.Walk.Seeding
import SpriteStage.Proofs.Walk.Tally
import SpriteStage.Proofs.Walk.Duration
import SpriteStage.Proofs.World.Execution
import SpriteStage.Proofs.World.Following
import SpriteStage.Proofs.World.Census
import SpriteStage.Proofs.Stage.Interleaving
import SpriteStage.Proofs.Stage.Lifecycle
import SpriteStage.Proofs.Stage.Newcomers
import SpriteStage.Proofs.Identity.Text
import SpriteStage.Proofs.Json.Numeral
import SpriteStage.Proofs.Json.Spelling
import SpriteStage.Proofs.Json.Text
import SpriteStage.Proofs.Json.Reading
import SpriteStage.Proofs.Json.Fields
import SpriteStage.Proofs.Codec.Block
import SpriteStage.Proofs.Codec.Scene
import SpriteStage.Proofs.Codec.Stage
import SpriteStage.Proofs.Codec.Format
import SpriteStage.Proofs.Codec.Legible
import SpriteStage.Proofs.Json.Depth
import SpriteStage.Proofs.Codec.Depth
import SpriteStage.Proofs.World.Snapshot
import SpriteStage.Proofs.Block.Extension
import SpriteStage.Proofs.Block.Ownership
import SpriteStage.Proofs.Block.Listing
import SpriteStage.Proofs.Programs.Inventory
import SpriteStage.Proofs.Programs.Arrival
import SpriteStage.Proofs.Programs.Relocation
import SpriteStage.Proofs.Programs.Exchange
import SpriteStage.Proofs.Programs.Removal
import SpriteStage.Proofs.Programs.Census
import SpriteStage.Proofs.World.Shuffle
import SpriteStage.Proofs.World.Reach
import SpriteStage.Proofs.Scene.Placement
import SpriteStage.Proofs.Scene.Building
import SpriteStage.Proofs.Actor.Baselines
import SpriteStage.Proofs.World.Baselines
import SpriteStage.Proofs.Stage.Resetting
import SpriteStage.Proofs.Drop
import SpriteStage.Proofs.Stage.Dropping
import SpriteStage.Proofs.Programs.Census
import SpriteStage.Proofs.Block.Parameters
import SpriteStage.Proofs.Actor.Colors
import SpriteStage.Proofs.Programs.Enumeration
import SpriteStage.Proofs.Programs.Absence
import SpriteStage.Proofs.World.Departure
