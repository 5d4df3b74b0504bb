import WireModel.Codec.Model
import WireModel.Codec.Store
import WireModel.Decimal.Reading
import WireModel.Files.Document
import WireModel.Main
import WireModel.Proofs.Codec.Blame
import WireModel.Proofs.Codec.Simulation
import WireModel.Proofs.Command.Recording
import WireModel.Proofs.Command.Writes
import WireModel.Proofs.Emit.Capture
import WireModel.Proofs.Emit.Comments
import WireModel.Proofs.Emit.Denotation
import WireModel.Proofs.Emit.Expressions
import WireModel.Proofs.Emit.Modules
import WireModel.Proofs.Emit.NullAnnotations
import WireModel.Proofs.Emit.Reports
import WireModel.Proofs.Generation
import WireModel.Proofs.Naming.Attributes
import WireModel.Proofs.Naming.Classes
import WireModel.Proofs.Options.RoundTrip
import WireModel.Proofs.Output.Regeneration
import WireModel.Proofs.Output.Survival
import WireModel.Proofs.Pipeline.Codecs
import WireModel.Proofs.Pipeline.Documents
import WireModel.Proofs.Pipeline.Extraction
import WireModel.Proofs.Pipeline.Mappings
import WireModel.Proofs.Pipeline.Tags
import WireModel.Proofs.Pipeline.Unions
import WireModel.Proofs.Plan.Overlaps
import WireModel.Proofs.Pointers
import WireModel.Proofs.Schema.Locations
import WireModel.Proofs.Schema.References
import WireModel.Proofs.Table.Closure
import WireModel.Proofs.Table.Discriminators
import WireModel.Proofs.Table.Missing
import WireModel.Proofs.Table.Nullability
import WireModel.Proofs.Types.Coherence
import WireModel.Proofs.Types.Cycles
import WireModel.Proofs.Types.Merging
import WireModel.Proofs.Types.Order
import WireModel.Proofs.Types.References
import WireModel.Proofs.Types.Requirement
import WireModel.Proofs.Value.Membership
