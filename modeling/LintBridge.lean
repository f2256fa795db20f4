import LintBridge.Json.Printer
import LintBridge.Json.Reader
import LintBridge.Main
import LintBridge.Program
import LintBridge.Proofs.Outcomes
import LintBridge.Proofs.Publication
import LintBridge.Proofs.PushMode
import LintBridge.Proofs.Grammar
import LintBridge.Proofs.Entries
import LintBridge.Proofs.Rendering
import LintBridge.Proofs.Mirror
import LintBridge.Proofs.Alone
import LintBridge.Proofs.Independence
import LintBridge.Proofs.Hosts
import LintBridge.Proofs.UriText
import LintBridge.Proofs.NormalForm
import LintBridge.Proofs.Lookups
import LintBridge.Proofs.Epochs
import LintBridge.Proofs.Agreement
import LintBridge.Proofs.Decoding
import LintBridge.Proofs.Outsets
import LintBridge.Proofs.Launches
import LintBridge.Proofs.Accounts
import LintBridge.Proofs.Deadlines
import LintBridge.Proofs.LineEnds
import LintBridge.Proofs.Sections
import LintBridge.Proofs.Limits
import LintBridge.Proofs.Capture
import LintBridge.Proofs.LineNumbers
import LintBridge.Proofs.Escapes
