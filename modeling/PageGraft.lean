import PageGraft.Main
import PageGraft.Proofs.Header
import PageGraft.Proofs.Declaration
import PageGraft.Proofs.FunctionSplice
import PageGraft.Proofs.Statement
import PageGraft.Proofs.StateDeclaration
import PageGraft.Proofs.StateRegion
import PageGraft.Proofs.StateSplice
import PageGraft.Proofs.Cleaning
import PageGraft.Proofs.Recognition
import PageGraft.Proofs.Change
import PageGraft.Proofs.Marker
import PageGraft.Proofs.Seam
import PageGraft.Proofs.Settled
import PageGraft.Proofs.Utf8
import PageGraft.Proofs.Store
import PageGraft.Proofs.Run
import PageGraft.Proofs.Outcome
import PageGraft.Proofs.TargetChanged
import PageGraft.Proofs.Literal
import PageGraft.Proofs.Scan
import PageGraft.Proofs.BracketGrammar
import PageGraft.Proofs.Matching
import PageGraft.Proofs.Cuts
import PageGraft.Proofs.Idempotence
import PageGraft.Proofs.Interleaving
import PageGraft.Proofs.UpToDate
import PageGraft.Proofs.Polling
import PageGraft.Proofs.BracketForest
import PageGraft.Proofs.CallRewriting
import PageGraft.Proofs.Passages
import PageGraft.Proofs.StateAssignment
import PageGraft.Proofs.StringLiterals
import PageGraft.Proofs.Traversal
import PageGraft.Proofs.Findings
import PageGraft.Proofs.Accounts
import PageGraft.Proofs.Insertion
import PageGraft.Proofs.BodyEnds
import PageGraft.Proofs.FirstDeclaration
import PageGraft.Proofs.Context
import PageGraft.Proofs.Nesting
import PageGraft.Proofs.Woven
import PageGraft.Proofs.CleanBalance
import PageGraft.Proofs.RegionSpelling
import PageGraft.Proofs.StateLines
import PageGraft.Proofs.Spacing
import PageGraft.Proofs.Requoting
import PageGraft.Proofs.Margin
import PageGraft.Proofs.Slices
import PageGraft.Proofs.Faults
import PageGraft.Proofs.ImportRemoval
import PageGraft.Proofs.Validity
import PageGraft.Proofs.Loading
import PageGraft.Proofs.SetUp
import PageGraft.Proofs.Halting
