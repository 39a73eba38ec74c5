import Flowgraph.Edit.Draft
import Flowgraph.Http.Serve
import Flowgraph.LanguageModel.Account
import Flowgraph.Moment.Stamp
import Flowgraph.Proofs.Answers
import Flowgraph.Proofs.Comparisons
import Flowgraph.Proofs.Events
import Flowgraph.Proofs.Fallback
import Flowgraph.Proofs.History
import Flowgraph.Proofs.Indifference
import Flowgraph.Proofs.Keys
import Flowgraph.Proofs.Ledger
import Flowgraph.Proofs.Literals
import Flowgraph.Proofs.Paths
import Flowgraph.Proofs.Refusals
import Flowgraph.Proofs.Release
import Flowgraph.Service.Preferences
import Flowgraph.Proofs.Regions
import Flowgraph.Proofs.Prefixes
import Flowgraph.Proofs.Prose
import Flowgraph.Proofs.Cells
import Flowgraph.Proofs.Headers
import Flowgraph.Proofs.Truncation
import Flowgraph.Proofs.Kinds
import Flowgraph.Proofs.References
import Flowgraph.Proofs.Attempts
import Flowgraph.Proofs.Newest
import Flowgraph.Proofs.Extractions
import Flowgraph.Proofs.Configs
