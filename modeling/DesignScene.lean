import DesignScene.Color
import DesignScene.Component.Identifier
import DesignScene.Component.Registry
import DesignScene.Component.Schema
import DesignScene.Component.Slot
import DesignScene.Component.Snapshot
import DesignScene.Config
import DesignScene.Decimal.Notation
import DesignScene.Decimal.Numeral
import DesignScene.Decimal.Shortest
import DesignScene.Dict
import DesignScene.Digest
import DesignScene.Document.Identifiers
import DesignScene.Document.Ingest
import DesignScene.Document.Node
import DesignScene.Document.Tabs
import DesignScene.Host.Basic
import DesignScene.Host.Blueprint
import DesignScene.Host.Reading
import DesignScene.Json.Basic
import DesignScene.Json.Literal
import DesignScene.Json.Parser
import DesignScene.Json.Printer
import DesignScene.Json.Record
import DesignScene.Layout.Basic
import DesignScene.Layout.Directive
import DesignScene.Layout.Encoding
import DesignScene.Matching.Basic
import DesignScene.Matching.MediaSlots
import DesignScene.Matching.TextSlots
import DesignScene.Proofs.Document.Places
import DesignScene.Property.ArrayHint
import DesignScene.Property.Bag
import DesignScene.Property.Encoding
import DesignScene.Property.Resolution
import DesignScene.Property.Resolved
import DesignScene.Property.Variant
import DesignScene.Render.Encoding
import DesignScene.Render.Frame
import DesignScene.Render.Instance
import DesignScene.Render.Item
import DesignScene.Render.Locate
import DesignScene.Render.Native
import DesignScene.Render.Scene
import DesignScene.Render.Stage
import DesignScene.Repair.Generator
import DesignScene.Repair.Prompt
import DesignScene.Repair.Retry
import DesignScene.Repair.Session
import DesignScene.Review.Basic
import DesignScene.Review.Issue
import DesignScene.Review.Quality
import DesignScene.Review.References
import DesignScene.Review.Structure
import DesignScene.Review.Variants
import DesignScene.Scalar.Basic
import DesignScene.Scalar.Double
import DesignScene.Scalar.Exact
import DesignScene.Scene.Arrange
import DesignScene.Scene.Encoding
import DesignScene.Scene.Graph
import DesignScene.Scene.Node
import DesignScene.Scene.Width
import DesignScene.Severity
import DesignScene.Styles
import DesignScene.Text.Basic
import DesignScene.Text.Case
import DesignScene.Text.CaseTable
import DesignScene.Text.CharSet
import DesignScene.Text.Key
import DesignScene.Proofs.Document.Tree
import DesignScene.Proofs.Review.Structure
import DesignScene.Proofs.Review.Defects
import DesignScene.Proofs.Review.References
import DesignScene.Proofs.Dict
import DesignScene.Proofs.Document.Prepare
import DesignScene.Proofs.Review.Readable
import DesignScene.Proofs.Scene.Graph
import DesignScene.Proofs.Scene.Sketch
import DesignScene.Proofs.Scene.Arrange
import DesignScene.Proofs.Render.Keeps
import DesignScene.Proofs.Render.Edits
import DesignScene.Proofs.Render.HostId
import DesignScene.Proofs.Scene.Walk
import DesignScene.Proofs.Render.Growth
import DesignScene.Proofs.Render.Depiction
import DesignScene.Proofs.Document.Filled
import DesignScene.Proofs.Document.Settled
import DesignScene.Proofs.Document.Kept
import DesignScene.Proofs.Property.Variants
import DesignScene.Proofs.Repair.Session
import DesignScene.Proofs.Render.Labels
import DesignScene.Proofs.Render.Visibility
import DesignScene.Proofs.Render.Delivery
import DesignScene.Proofs.Render.Texts
import DesignScene.Proofs.Render.Hiding
import DesignScene.Proofs.Render.Fonts
import DesignScene.Proofs.Render.Twins
import DesignScene.Proofs.Render.Leads
import DesignScene.Proofs.Render.Instances
import DesignScene.Proofs.Render.Siblings
import DesignScene.Proofs.Property.Offers
import DesignScene.Proofs.Property.Conservation
import DesignScene.Proofs.Property.Precedence
import DesignScene.Proofs.Property.Legal
import DesignScene.Proofs.Render.VariantValues
import DesignScene.Proofs.Json.Sorted
import DesignScene.Proofs.Review.Variants
import DesignScene.Proofs.Review.Agreement
import DesignScene.Proofs.Repair.Requests
import DesignScene.Proofs.Repair.Advice
import DesignScene.Proofs.Render.Fallback
import DesignScene.Proofs.Document.Origin
import DesignScene.Proofs.Review.Coverage
import DesignScene.Proofs.Scene.Family
import DesignScene.Proofs.Scene.Sizes
import DesignScene.Proofs.Scene.Rearrange
import DesignScene.Proofs.Scene.Fitted
import DesignScene.Proofs.Scene.Widths
import DesignScene.Proofs.Render.Measured
import DesignScene.Proofs.Render.Shown
import DesignScene.Proofs.Render.Fillings
import DesignScene.Proofs.Render.FinalSizes
import DesignScene.Proofs.Scene.Bounds
import DesignScene.Proofs.Render.Bounded
import DesignScene.Proofs.Render.FixedWidths
import DesignScene.Proofs.Render.Stable
import DesignScene.Proofs.Render.Columns
import DesignScene.Proofs.Render.Forest
import DesignScene.Proofs.Render.Copies
import DesignScene.Proofs.Render.Lettering
import DesignScene.Proofs.Render.Written
import DesignScene.Proofs.Render.History
import DesignScene.Proofs.Render.Staged
import DesignScene.Proofs.Property.LabelLists
import DesignScene.Proofs.Document.Runs
import DesignScene.Proofs.Render.LabelNodes
import DesignScene.Proofs.Render.Tabs
import DesignScene.Proofs.Render.Canvas
import DesignScene.Proofs.Render.RootSize
import DesignScene.Proofs.Document.Joining
import DesignScene.Proofs.Document.JoinedLabels
import DesignScene.Proofs.Document.Removals
import DesignScene.Proofs.Document.OnlyIds
import DesignScene.Proofs.Document.Paths
import DesignScene.Proofs.Document.Reports
import DesignScene.Proofs.Document.Children
import DesignScene.Proofs.Render.ShapeFrames
import DesignScene.Proofs.Document.Malformed
import DesignScene.Proofs.Property.Directives
import DesignScene.Proofs.Property.OwnFields
import DesignScene.Proofs.Property.Readers
import DesignScene.Proofs.Scalar.Finite
import DesignScene.Proofs.Decimal.Range
import DesignScene.Proofs.Json.Numbers
import DesignScene.Proofs.Document.Finite
import DesignScene.Proofs.Text.Letters
import DesignScene.Proofs.Document.SizeSources
import DesignScene.Proofs.Text.Words
import DesignScene.Proofs.Matching.TextSlots
import DesignScene.Proofs.Property.Sanitized
import DesignScene.Proofs.Property.Spreading
import DesignScene.Proofs.Matching.MediaSlots
import DesignScene.Proofs.Property.InRange
import DesignScene.Proofs.Component.Registrations
import DesignScene.Proofs.Component.Types
import DesignScene.Proofs.Repair.Attempts
import DesignScene.Proofs.Review.Scores
import DesignScene.Proofs.Scene.Locality
import DesignScene.Proofs.Json.Readback
import DesignScene.Proofs.Json.Decoders
import DesignScene.Proofs.Component.Canonical
import DesignScene.Proofs.Scalar.Exact
import DesignScene.Proofs.Scene.Boxes
import DesignScene.Proofs.Scene.Placing
import DesignScene.Proofs.Scene.Hugging
import DesignScene.Proofs.Scene.Shares
import DesignScene.Proofs.Render.Wrapping
import DesignScene.Proofs.Scalar.Comparable
import DesignScene.Proofs.Decimal.NotANumber
import DesignScene.Proofs.Color.Hex
import DesignScene.Proofs.Color.UnitRange
import DesignScene.Proofs.Scene.Below
import DesignScene.Proofs.Render.IconSwaps
import DesignScene.Proofs.Render.Overrides
import DesignScene.Proofs.Text.Lowered
import DesignScene.Proofs.Text.NormalForm
import DesignScene.Proofs.Scene.Lines
import DesignScene.Proofs.Scene.Lineage
import DesignScene.Proofs.Render.InferredSlots
import DesignScene.Proofs.Scene.Descendants
import DesignScene.Proofs.Json.Spans
import DesignScene.Proofs.Repair.Extraction
import DesignScene.Proofs.Host.Heights
