import PathRouter.Main
import PathRouter.Pattern.Matching
import PathRouter.Proofs.Automaton.WellFormed
import PathRouter.Proofs.Table.Dense
import PathRouter.Proofs.Table.Agreement
import PathRouter.Proofs.Automaton.ItemPool
import PathRouter.Proofs.Percent
import PathRouter.Proofs.Percent.Decoding
import PathRouter.Proofs.Percent.Exactness
import PathRouter.Proofs.Pattern.Grammar
import PathRouter.Proofs.Pattern.Parser
import PathRouter.Proofs.Automaton.Position
import PathRouter.Proofs.Automaton.Matching
import PathRouter.Proofs.Automaton.Reached
import PathRouter.Proofs.Automaton.Consistency
import PathRouter.Proofs.Automaton.Expansion
import PathRouter.Proofs.Automaton.Completion
import PathRouter.Proofs.Automaton.StateBound
import PathRouter.Proofs.Automaton.Representation
import PathRouter.Proofs.Pattern.Matching
import PathRouter.Proofs.Percent.Normalization
import PathRouter.Proofs.Pattern.Spelling
import PathRouter.Proofs.Pattern.Canonical
import PathRouter.Proofs.Pattern.SegmentFault
import PathRouter.Proofs.Pattern.Fault
import PathRouter.Proofs.Pattern.Verbatim
import PathRouter.Proofs.Automaton.Exactness
import PathRouter.Proofs.Automaton.Residual
import PathRouter.Proofs.Automaton.Minimality
import PathRouter.Proofs.Automaton.Trim
import PathRouter.Proofs.Automaton.Termination
import PathRouter.Proofs.Automaton.Standing
import PathRouter.Proofs.Automaton.Worklist
import PathRouter.Proofs.Automaton.Isomorphism
import PathRouter.Proofs.Automaton.Reordering
import PathRouter.Proofs.Router.Conflict
import PathRouter.Proofs.Router.Exactness
import PathRouter.Proofs.Router.Variables
import PathRouter.Proofs.Router.Binding
import PathRouter.Proofs.Table.Validity
import PathRouter.Proofs.Table.Safety
import PathRouter.Proofs.Table.Capacity
import PathRouter.Proofs.Table.Compression
import PathRouter.Proofs.Table.Renumbering
import PathRouter.Proofs.Table.Update
import PathRouter.Proofs.Table.Written
import PathRouter.Proofs.Router.Safety
import PathRouter.Proofs.Engine.Transfer
import PathRouter.Proofs.Router.Transfer
import PathRouter.Proofs.Url.Escape
import PathRouter.Proofs.Url.Path
import PathRouter.Proofs.Url.DotSegments
import PathRouter.Proofs.Router.PlainPath
import PathRouter.Proofs.Router.Filling
import PathRouter.Proofs.Router.Precondition
import PathRouter.Proofs.Router.Spelling
import PathRouter.Proofs.Router.Reordering
import PathRouter.Proofs.Config.Compilation
import PathRouter.Proofs.Config.Report
