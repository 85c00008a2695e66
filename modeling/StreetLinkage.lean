import StreetLinkage.Settings
import StreetLinkage.LogFilter
import StreetLinkage.Inspect
import StreetLinkage.Proofs.Recording
import StreetLinkage.Proofs.Run
import StreetLinkage.Proofs.Ownership
import StreetLinkage.Proofs.Chain
import StreetLinkage.Proofs.Derivation
import StreetLinkage.Proofs.Failure
import StreetLinkage.Proofs.History
import StreetLinkage.Proofs.Invariant
import StreetLinkage.Proofs.Accounting
import StreetLinkage.Proofs.Reporting
import StreetLinkage.Proofs.Durability
import StreetLinkage.Proofs.Rejection
import StreetLinkage.Proofs.Freshness
import StreetLinkage.Proofs.Ancestry
import StreetLinkage.Proofs.Capacity
import StreetLinkage.Proofs.Interchange
import StreetLinkage.Proofs.EnvelopeQuery
import StreetLinkage.Proofs.Atomicity
import StreetLinkage.Proofs.ClosedForm
import StreetLinkage.Proofs.AnyOrder
import StreetLinkage.Proofs.Labels
import StreetLinkage.Proofs.EgressOnce
import StreetLinkage.Proofs.Covering
import StreetLinkage.Proofs.FixedDegrees
import StreetLinkage.Proofs.PointAccess
import StreetLinkage.Proofs.BoxQuery
import StreetLinkage.Proofs.FixedRoundTrip
import StreetLinkage.Proofs.Gudermann
import StreetLinkage.Proofs.PixelCenters
import StreetLinkage.Proofs.GridResolution
import StreetLinkage.Proofs.ColumnRoundTrip
import StreetLinkage.Proofs.CoordinateText
import StreetLinkage.Proofs.ConfigObject
