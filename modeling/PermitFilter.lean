import PermitFilter.Cursor
import PermitFilter.Main
import PermitFilter.Workspace
import PermitFilter.Proofs.Layout
import PermitFilter.Proofs.RuleGrammar
import PermitFilter.Proofs.Accounting
import PermitFilter.Proofs.Policies
import PermitFilter.Proofs.LineLayout
import PermitFilter.Proofs.ClauseWords
import PermitFilter.Proofs.Decoding
import PermitFilter.Proofs.Paths
import PermitFilter.Proofs.AllOrNothing
import PermitFilter.Proofs.FileText
import PermitFilter.Proofs.Places
import PermitFilter.Proofs.Trimming
import PermitFilter.Proofs.Provenance
import PermitFilter.Proofs.LoadingBack
import PermitFilter.Proofs.Observability
import PermitFilter.Proofs.OutputFiles
import PermitFilter.Proofs.Printing
import PermitFilter.Proofs.Continuations
import PermitFilter.Proofs.Assembly
import PermitFilter.Proofs.Disjuncts
import PermitFilter.Proofs.Concatenation
import PermitFilter.Proofs.LineEndings
import PermitFilter.Proofs.QuotedText
import PermitFilter.Proofs.ReportWording
import PermitFilter.Proofs.ArgumentOrder
import PermitFilter.Proofs.EventLog
import PermitFilter.Proofs.KeptPlaces
