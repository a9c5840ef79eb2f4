import SocialMigration.Balance
import SocialMigration.Batch
import SocialMigration.Binary64
import SocialMigration.Calendar
import SocialMigration.CommandLine.Basic
import SocialMigration.CommandLine.Dialogue
import SocialMigration.CommandLine.Options
import SocialMigration.Config
import SocialMigration.Decimal.Arithmetic
import SocialMigration.Decimal.Basic
import SocialMigration.Decimal.Printer
import SocialMigration.Decimal.Reader
import SocialMigration.Failure
import SocialMigration.FileTree.Basic
import SocialMigration.FileTree.Change
import SocialMigration.FileTree.Fault
import SocialMigration.Gas
import SocialMigration.Journal
import SocialMigration.Json.Basic
import SocialMigration.Json.Depth
import SocialMigration.Json.Printer
import SocialMigration.Json.Reader
import SocialMigration.Json.Shown
import SocialMigration.Main
import SocialMigration.Migration.Basic
import SocialMigration.Migration.Overview
import SocialMigration.Migration.Results
import SocialMigration.Migration.Steps
import SocialMigration.Numeral
import SocialMigration.Page.Basic
import SocialMigration.Page.Fetch
import SocialMigration.Platform
import SocialMigration.Precondition
import SocialMigration.Progression
import SocialMigration.Rounding
import SocialMigration.Rpc.Client
import SocialMigration.Rpc.Response
import SocialMigration.RunFolder.Basic
import SocialMigration.RunFolder.Name
import SocialMigration.RunFolder.Retention
import SocialMigration.Session
import SocialMigration.Settings.Assignments
import SocialMigration.Settings.Fault
import SocialMigration.Settings.Literal
import SocialMigration.Settings.Load
import SocialMigration.Signer
import SocialMigration.Status
import SocialMigration.Text.Alphanumeric
import SocialMigration.Text.Base64
import SocialMigration.Text.Basic
import SocialMigration.Text.Blank
import SocialMigration.Text.Digit
import SocialMigration.Text.LowerCase
import SocialMigration.Text.Printable
import SocialMigration.Text.Quoted
import SocialMigration.Text.Utf8
import SocialMigration.Text.Composition
import SocialMigration.Text.Unencodable
import SocialMigration.Url.Address
import SocialMigration.Url.Fault
import SocialMigration.Url.Label
import SocialMigration.Url.Percent
import SocialMigration.Url.Host
import SocialMigration.Url.Basic
import SocialMigration.Url.Requested
import SocialMigration.Proofs.CommandLine.Clients
import SocialMigration.Proofs.CommandLine.Contract
import SocialMigration.Proofs.Migration.Gate
import SocialMigration.Proofs.Migration.Resume
import SocialMigration.Proofs.Batch.FirstFailure
import SocialMigration.Proofs.Page.Failing
import SocialMigration.Proofs.Signer.Arguments
import SocialMigration.Proofs.Migration.Alike
import SocialMigration.Proofs.Migration.Prediction
import SocialMigration.Proofs.Migration.Pagination
import SocialMigration.Proofs.Migration.ReadPlan
import SocialMigration.Proofs.Page.Slots
import SocialMigration.Proofs.Rpc.Failing
import SocialMigration.Proofs.Rpc.RoundTrip
import SocialMigration.Proofs.Rpc.Requests
import SocialMigration.Proofs.Decimal.Value
import SocialMigration.Proofs.Balance.Exact
import SocialMigration.Proofs.Decimal.Quantize
import SocialMigration.Proofs.Balance.Near
import SocialMigration.Proofs.Balance.Adding
import SocialMigration.Proofs.Balance.Report
import SocialMigration.Proofs.Decimal.Significant
import SocialMigration.Proofs.Balance.Accepted
import SocialMigration.Proofs.Decimal.Plain
import SocialMigration.Proofs.Gas
import SocialMigration.Proofs.Migration.Reasons
import SocialMigration.Proofs.Signer.Launch
import SocialMigration.Proofs.FileTree.Faults
import SocialMigration.Proofs.Migration.Refusals
import SocialMigration.Proofs.Calendar
import SocialMigration.Proofs.CommandLine.Expiry
import SocialMigration.Proofs.FileTree.Change
import SocialMigration.Proofs.RunFolder.CleanUp
import SocialMigration.Proofs.RunFolder.Making
import SocialMigration.Proofs.RunFolder.Agreement
import SocialMigration.Proofs.RunFolder.Reports
import SocialMigration.Proofs.Migration.SavedReport
import SocialMigration.Proofs.Migration.HandedBack
import SocialMigration.Proofs.Signer.Strict
import SocialMigration.Proofs.Settings.Acceptance
