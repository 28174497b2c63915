import ObjectCourier.Number.IntKind
import ObjectCourier.Number.Binary
import ObjectCourier.Digest.XxHash
import ObjectCourier.Fault
import ObjectCourier.Schema.FieldType
import ObjectCourier.Schema.Member
import ObjectCourier.Object.Value
import ObjectCourier.Object.Embedding
import ObjectCourier.Wire.Compression
import ObjectCourier.Wire.Entries
import ObjectCourier.Wire.Frame
import ObjectCourier.Wire.Record
import ObjectCourier.Object.FieldWire
import ObjectCourier.Object.Initial
import ObjectCourier.Status.Basic
import ObjectCourier.Status.Business
import ObjectCourier.Event
import ObjectCourier.Graph.RefTable
import ObjectCourier.Graph.Registry
import ObjectCourier.Graph.Reader
import ObjectCourier.Graph.Writer
import ObjectCourier.Portal.Dictionary
import ObjectCourier.Portal.Authorization
import ObjectCourier.Portal.Criteria
import ObjectCourier.Portal.Envelope
import ObjectCourier.World
import ObjectCourier.Graph.Formatter
import ObjectCourier.Load
import ObjectCourier.Portal.Dispatcher
import ObjectCourier.Business.Access
import ObjectCourier.Business.Algorithms
import ObjectCourier.Business.Catalog
import ObjectCourier.Graph.Report
import ObjectCourier.Portal.Client
import ObjectCourier.Text.Describe
import ObjectCourier.Object.Fields
import ObjectCourier.Text.Stable
import ObjectCourier.Proofs.Codec.Faithful
import ObjectCourier.Proofs.Codec.Numbers
import ObjectCourier.Proofs.Codec.Wire
import ObjectCourier.Proofs.Number.Widening
import ObjectCourier.Proofs.Codec.Frame
import ObjectCourier.Proofs.Codec.Envelope
import ObjectCourier.Proofs.Codec.Delivery
import ObjectCourier.Proofs.Object.Heap
import ObjectCourier.Proofs.Object.Tree
import ObjectCourier.Proofs.Object.Unfolding
import ObjectCourier.Proofs.Object.Planting
import ObjectCourier.Proofs.Object.Restoring
import ObjectCourier.Proofs.Object.Restoration
import ObjectCourier.Proofs.Object.Confinement
import ObjectCourier.Proofs.Graph.Script
import ObjectCourier.Proofs.Graph.Numbering
import ObjectCourier.Proofs.Graph.Writing
import ObjectCourier.Proofs.Graph.Records
import ObjectCourier.Proofs.Graph.Validity
import ObjectCourier.Proofs.Graph.WellFormed
import ObjectCourier.Proofs.Graph.Reading
import ObjectCourier.Proofs.Graph.Blame
import ObjectCourier.Proofs.Graph.Building
import ObjectCourier.Proofs.Graph.Moving
import ObjectCourier.Proofs.Graph.Rewriting
import ObjectCourier.Proofs.Graph.Copying
import ObjectCourier.Proofs.Graph.Passing
import ObjectCourier.Proofs.Graph.Seclusion
import ObjectCourier.Proofs.Graph.Isomorphism
import ObjectCourier.Proofs.Status.Busy
import ObjectCourier.Proofs.Portal.Steps
import ObjectCourier.Proofs.Portal.Access
import ObjectCourier.Proofs.Portal.Handing
import ObjectCourier.Proofs.Portal.Transparency
import ObjectCourier.Proofs.Portal.Admission
import ObjectCourier.Proofs.Portal.Failing
import ObjectCourier.Proofs.Portal.BusyResults
import ObjectCourier.Proofs.Portal.Reach
import ObjectCourier.Proofs.Portal.Isolation
import ObjectCourier.Proofs.Portal.Verdicts
import ObjectCourier.Proofs.Graph.RecordCheck
import ObjectCourier.Proofs.Graph.Plans
import ObjectCourier.Proofs.Graph.Acceptance
import ObjectCourier.Proofs.Object.Tandem
import ObjectCourier.Proofs.Graph.Invariance
import ObjectCourier.Proofs.Portal.Serving
import ObjectCourier.Proofs.Graph.Renaming
import ObjectCourier.Proofs.Portal.Contexts
import ObjectCourier.Proofs.Portal.Shapes
import ObjectCourier.Proofs.Portal.Snapshots
import ObjectCourier.Proofs.Status.LoadHistory
import ObjectCourier.Proofs.Status.Loading
import ObjectCourier.Proofs.Portal.Relaying
import ObjectCourier.Proofs.Graph.Showing
import ObjectCourier.Proofs.Graph.Agreement
import ObjectCourier.Proofs.Graph.Cycles
import ObjectCourier.Proofs.Graph.Unrolling
import ObjectCourier.Proofs.Graph.ByValue
import ObjectCourier.Proofs.Codec.Guards
import ObjectCourier.Proofs.Object.Scalars
import ObjectCourier.Proofs.Status.Tags
import ObjectCourier.Proofs.Status.Tagging
import ObjectCourier.Proofs.Status.Following
import ObjectCourier.Proofs.Status.Copies
import ObjectCourier.Proofs.Portal.Roles
import ObjectCourier.Proofs.Portal.Stages
import ObjectCourier.Proofs.Graph.Tables
import ObjectCourier.Proofs.Graph.Keys
import ObjectCourier.Proofs.Graph.Elements
import ObjectCourier.Proofs.Graph.Identities
