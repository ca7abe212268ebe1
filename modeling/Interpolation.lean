import Interpolation.Main
import Interpolation.Session.Samples
import Interpolation.Workspace
import Interpolation.Proofs.Agreement
import Interpolation.Proofs.Ancestry
import Interpolation.Proofs.Appending
import Interpolation.Proofs.Budget
import Interpolation.Proofs.Components
import Interpolation.Proofs.Cycle
import Interpolation.Proofs.Expansion
import Interpolation.Proofs.FixedCommands
import Interpolation.Proofs.Guarantee
import Interpolation.Proofs.Keys
import Interpolation.Proofs.Limits
import Interpolation.Proofs.Lines
import Interpolation.Proofs.Nesting
import Interpolation.Proofs.Overlap
import Interpolation.Proofs.PassOrder
import Interpolation.Proofs.Replacement
import Interpolation.Proofs.Scan
import Interpolation.Proofs.Template
import Interpolation.Proofs.Timeout
import Interpolation.Proofs.Trail
import Interpolation.Proofs.Walk
import Interpolation.Proofs.Ownership
import Interpolation.Proofs.Parts
import Interpolation.Proofs.Flags
