import Considerate.Main
import Considerate.Proofs.Formatting
import Considerate.Proofs.Schedule.Orphans
import Considerate.Proofs.Schedule.Replay
import Considerate.Proofs.Schedule.Independence
import Considerate.Proofs.CommandLine.Agreement
import Considerate.Proofs.Session.Turns
import Considerate.Proofs.Session.Update
import Considerate.Schedule.Run
import Considerate.Proofs.Session.Publications
import Considerate.Proofs.Session.Regular
import Considerate.Proofs.Session.Closed
import Considerate.Proofs.Codes
import Considerate.Proofs.Session.QuickFix
import Considerate.Proofs.Session.Tended
import Considerate.Proofs.Session.Reopened
import Considerate.Proofs.Session.Generations
import Considerate.Proofs.LeftmostLongest
import Considerate.Proofs.Filtering
import Considerate.Proofs.Suggestions
import Considerate.Proofs.Session.Representation
import Considerate.Proofs.Session.Statuses
import Considerate.Proofs.Server.Actions
import Considerate.Proofs.Resolution
import Considerate.Proofs.Replacement
import Considerate.Proofs.Session.AfterFix
import Considerate.Proofs.Session.FixAndClose
import Considerate.Proofs.Server.Readings
import Considerate.Proofs.Session.Unfailing
import Considerate.Proofs.Keyed
import Considerate.Proofs.Server.Debounced
import Considerate.Proofs.Removal
import Considerate.Proofs.LetterCase
import Considerate.Proofs.HtmlPieces
import Considerate.Proofs.DocumentOrder
import Considerate.Proofs.Locality
import Considerate.Proofs.CommandLine.Outcome
import Considerate.Proofs.CommandLine.Lines
import Considerate.Proofs.LineTable
import Considerate.Proofs.TreeProse
