import PostFilter.Book.QuickHide
import PostFilter.CharSet.Folding
import PostFilter.Clause.Order
import PostFilter.Clause.Printer
import PostFilter.Decimal.Shortest
import PostFilter.Pattern.Memo
import PostFilter.Post.Stored
import PostFilter.Proofs.Accepted.Fitting
import PostFilter.Proofs.Book.Appending
import PostFilter.Proofs.Book.Consistency
import PostFilter.Proofs.Book.QuickHide
import PostFilter.Proofs.Book.Refusing
import PostFilter.Proofs.Book.Restore
import PostFilter.Proofs.Canonical.Meaning
import PostFilter.Proofs.Canonical.Normal
import PostFilter.Proofs.Canonical.Rearranging
import PostFilter.Proofs.Cursor.Documents
import PostFilter.Proofs.Dispatch.PauseHistory
import PostFilter.Proofs.Dispatch.Safety
import PostFilter.Proofs.Grammar.Concatenation
import PostFilter.Proofs.Order.Total
import PostFilter.Proofs.Pattern.Escaping
import PostFilter.Proofs.Pattern.Memo
import PostFilter.Proofs.Reading.Limits
import PostFilter.Proofs.Replacement.Expansion
import PostFilter.Proofs.Replacement.Rereading
import PostFilter.Proofs.Ruleset.Fingerprint
import PostFilter.Proofs.Ruleset.Hash
import PostFilter.Proofs.Ruleset.Nesting
import PostFilter.Proofs.Spam.Lines
import PostFilter.Proofs.Verdict.Account
import PostFilter.Proofs.Verdict.Batch
import PostFilter.Proofs.Verdict.CheapFirst
import PostFilter.Proofs.Verdict.Failure
import PostFilter.Proofs.Verdict.Memo
import PostFilter.Proofs.Verdict.Reordering
import PostFilter.Proofs.Verdict.Trace
import PostFilter.Proofs.Verdict.Words
import PostFilter.Ruleset.Stored
import PostFilter.Verdict.Fold
import PostFilter.Verdict.Session
