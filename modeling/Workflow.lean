import Workflow.Main
import Workflow.Condition.Truth
import Workflow.Proofs.Condition.Balance
import Workflow.Proofs.Condition.Frame
import Workflow.Proofs.Graph.Least
import Workflow.Proofs.Graph.Cycle
import Workflow.Proofs.Reference.Resolved
import Workflow.Proofs.Reference.Artifact
import Workflow.Proofs.Reference.Homomorphism
import Workflow.Proofs.Validation.Tree
import Workflow.Proofs.Run.Consistency
import Workflow.Proofs.Run.Progress
import Workflow.Proofs.Run.Soundness
import Workflow.Proofs.Run.Branches
import Workflow.Proofs.Run.Choosing
import Workflow.Proofs.Run.Halting
import Workflow.Proofs.Run.Persistence
import Workflow.Proofs.Run.Atomicity
import Workflow.Proofs.Run.Termination
import Workflow.Proofs.Run.Forking
import Workflow.Proofs.Run.Fallback
import Workflow.Proofs.Run.Answering
import Workflow.Proofs.Document.Acceptance
import Workflow.Proofs.Document.RoundTrip
import Workflow.Proofs.Document.NormalForm
import Workflow.Proofs.Merge.Order
import Workflow.Proofs.Merge.Source
import Workflow.Proofs.Merge.Derived
import Workflow.Proofs.Merge.Resolution
import Workflow.Proofs.Merge.Label
import Workflow.Proofs.Merge.Chains
import Workflow.Proofs.Merge.Outcome
import Workflow.Proofs.Merge.Alone
import Workflow.Proofs.Command.Strictness
