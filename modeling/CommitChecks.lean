import CommitChecks.GitHub.Client
import CommitChecks.Json.Reader
import CommitChecks.Json.Writer
import CommitChecks.Log.Installation
import CommitChecks.Proofs.CheckMode.FailStop
import CommitChecks.Proofs.GitHub.Listing
import CommitChecks.Proofs.GitHub.Register
import CommitChecks.Proofs.Session.Retries
import CommitChecks.Proofs.Session.Ownership
import CommitChecks.Proofs.CheckMode.SkippedChecks
import CommitChecks.Proofs.Diagnostic.ErrorLog
import CommitChecks.Proofs.Session.StoredCheck
import CommitChecks.Rehearsal
import CommitChecks.Settings
import CommitChecks.TaskTable
import CommitChecks.Proofs.GitHub.WrittenChecks
import CommitChecks.Proofs.Essence
import CommitChecks.Proofs.Session.Diagnostics
import CommitChecks.Proofs.CheckMode.Discovery
import CommitChecks.Proofs.StatusMode.FlatReport
import CommitChecks.Proofs.CheckMode.Contents
import CommitChecks.Proofs.GitHub.UpdateBody
import CommitChecks.Proofs.GitHub.Writes
import CommitChecks.Proofs.Diagnostic.Accounting
import CommitChecks.Proofs.TaskTable.ReadBack
import CommitChecks.Proofs.GitHub.PageBound
import CommitChecks.Proofs.Document.RoundTrips
import CommitChecks.Proofs.Run.MetadataPatch
import CommitChecks.Proofs.Settings.Defaults
import CommitChecks.Proofs.Log.Installation
