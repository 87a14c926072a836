import ReleaseHistory.Search.Overview
import ReleaseHistory.Store.Repair
import ReleaseHistory.Main
import ReleaseHistory.Text.ControlSequence
import ReleaseHistory.Proofs.Calendar
import ReleaseHistory.Proofs.Operation
import ReleaseHistory.Proofs.TextColumn
import ReleaseHistory.Proofs.Ledger
import ReleaseHistory.Proofs.Duplicates
import ReleaseHistory.Proofs.Evaluation
import ReleaseHistory.Proofs.Recognition
import ReleaseHistory.Proofs.Pipeline
import ReleaseHistory.Proofs.Purge
import ReleaseHistory.Proofs.Order
import ReleaseHistory.Proofs.Reading
import ReleaseHistory.Proofs.Paging
import ReleaseHistory.Proofs.Interruption
import ReleaseHistory.Proofs.Retry
import ReleaseHistory.Proofs.Survival
import ReleaseHistory.Proofs.Legibility
import ReleaseHistory.Proofs.StatusLog
import ReleaseHistory.Proofs.EpisodeGuard
import ReleaseHistory.Proofs.Persistence
import ReleaseHistory.Proofs.Switches
import ReleaseHistory.Proofs.NormalizedRuns
import ReleaseHistory.Proofs.ProfileAnswers
import ReleaseHistory.Proofs.Overview
import ReleaseHistory.Proofs.Reports
import ReleaseHistory.Proofs.Recording
import ReleaseHistory.Proofs.MarkerGrammar
import ReleaseHistory.Proofs.CanonicalWords
import ReleaseHistory.Proofs.EditionFlags
import ReleaseHistory.Proofs.SearchTerms
import ReleaseHistory.Proofs.FoldedLetters
import ReleaseHistory.Proofs.Instants
import ReleaseHistory.Proofs.SortOptions
