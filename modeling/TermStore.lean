import TermStore.Session.World
import TermStore.Main
import TermStore.Proofs.Maps
import TermStore.Proofs.Tables
import TermStore.Proofs.Lookups
import TermStore.Proofs.Insertion
import TermStore.Proofs.Schema
import TermStore.Proofs.Company
import TermStore.Proofs.Phases
import TermStore.Proofs.Recovery
import TermStore.Proofs.Agreement
import TermStore.Proofs.History
import TermStore.Proofs.Faults
import TermStore.Proofs.Levels
import TermStore.Proofs.Restart
import TermStore.Proofs.Following
import TermStore.Proofs.Retry
import TermStore.Proofs.Idempotence
import TermStore.Proofs.Transcript
import TermStore.Proofs.Lagging
import TermStore.Proofs.Kinds
import TermStore.Proofs.Documents
import TermStore.Proofs.Addition
import TermStore.Proofs.Resolving
import TermStore.Proofs.RoundTrip
import TermStore.Proofs.Savepoints
import TermStore.Proofs.Migrations
import TermStore.Proofs.KindCalls
import TermStore.Proofs.Layouts
import TermStore.Proofs.Variables
import TermStore.Proofs.Endings
import TermStore.Proofs.OneByOne
import TermStore.Proofs.Leftovers
import TermStore.Proofs.Restoring
import TermStore.Proofs.Outcomes
import TermStore.Proofs.KnownKinds
import TermStore.Proofs.KindAnswers
import TermStore.Proofs.Groups
import TermStore.Proofs.JsonTexts
import TermStore.Proofs.JsonPrinting
import TermStore.Proofs.ByteOrder
import TermStore.Proofs.JsonDocuments
import TermStore.Proofs.ExactLookups
import TermStore.Proofs.WholeInserts
import TermStore.Proofs.Decoding
import TermStore.Proofs.Cuts
import TermStore.Proofs.Paths
import TermStore.Proofs.Precedence
import TermStore.Proofs.Trees
import TermStore.Proofs.SettingUp
import TermStore.Proofs.SingleTexts
import TermStore.Proofs.Interleavings
