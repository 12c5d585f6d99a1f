import Annotations.Main
import Annotations.Proofs.Registry
import Annotations.Proofs.Resolution
import Annotations.Proofs.Sorting
import Annotations.Proofs.Suppression.Fold
import Annotations.Proofs.Suppression.Coverage
import Annotations.Proofs.Declaration
import Annotations.Proofs.History
import Annotations.Proofs.Visibility
import Annotations.Proofs.Diagnostics
import Annotations.Proofs.Marker.Grammar
import Annotations.Proofs.Marker.Recognition
import Annotations.Proofs.ChangeLog
import Annotations.Proofs.Reachable
import Annotations.Proofs.Invariant
import Annotations.Proofs.AdditionOrder
import Annotations.Proofs.Incremental
import Annotations.Proofs.Attribution
import Annotations.Proofs.TrackingSwitch
import Annotations.Proofs.Parallel.Settlement
import Annotations.Proofs.Parallel.Interleaving
import Annotations.Proofs.Registry.Requests
import Annotations.Proofs.Growth
import Annotations.Proofs.Suppression.Ranges
import Annotations.Proofs.Safety
import Annotations.Proofs.Source.Placement
import Annotations.Proofs.Registry.Tracking
import Annotations.Proofs.Suppression.Openings
import Annotations.Proofs.Suppression.Independence
import Annotations.Proofs.Suppression.Collection
import Annotations.Proofs.OwnSymbols
import Annotations.Proofs.Source.Nesting
import Annotations.Proofs.Source.Opacity
import Annotations.Proofs.Admission
import Annotations.Proofs.Reordering
import Annotations.Proofs.Repository
import Annotations.Proofs.Parallel.Declaring
import Annotations.Proofs.Parallel.Analysis
import Annotations.Proofs.Parallel.Processed
import Annotations.Proofs.CommandLine.Check
import Annotations.Proofs.CommandLine.Agreement
import Annotations.Proofs.FirstDeclaration
import Annotations.Proofs.Config.CallNames
import Annotations.Proofs.Discovery.Selection
import Annotations.Proofs.Render
import Annotations.Proofs.Description
import Annotations.Proofs.Source.Comments
import Annotations.Proofs.Identity
