import CloudAudit.Report
import CloudAudit.Operation
import CloudAudit.Notification
import CloudAudit.Text.Category
import CloudAudit.Text.Script
import CloudAudit.Text.Property
import CloudAudit.Text.CaseFold
import CloudAudit.Pattern.Replace
import CloudAudit.Risk
import CloudAudit.Rule
import CloudAudit.Identity
import CloudAudit.Requests
import CloudAudit.Store
import CloudAudit.Service
import CloudAudit.Schedule
import CloudAudit.Startup
import CloudAudit.Web.Api
import CloudAudit.Config.CommandLine
import CloudAudit.Main
import CloudAudit.Proofs.Requests.Claiming
import CloudAudit.Proofs.Requests.Resolution
import CloudAudit.Proofs.Requests.Calls
import CloudAudit.Proofs.Requests.Accounts
import CloudAudit.Proofs.Requests.Exclusion
import CloudAudit.Proofs.Requests.Completion
import CloudAudit.Proofs.Time.Order
import CloudAudit.Proofs.Store.Keeping
import CloudAudit.Proofs.World.Actions
import CloudAudit.Proofs.World.Steady
import CloudAudit.Proofs.World.Events
import CloudAudit.Proofs.World.Growth
import CloudAudit.Proofs.Listing.Selection
import CloudAudit.Proofs.Listing.Grouping
import CloudAudit.Proofs.Listing.Showing
import CloudAudit.Proofs.Scan.Completing
import CloudAudit.Proofs.Listing.Supersession
import CloudAudit.Proofs.Listing.LatestScan
import CloudAudit.Proofs.World.Identifiers
import CloudAudit.Proofs.World.Moments
import CloudAudit.Proofs.Collect.Snapshots
import CloudAudit.Proofs.Scan.Sight
import CloudAudit.Proofs.Scan.Findings
import CloudAudit.Proofs.Runs.Starting
import CloudAudit.Proofs.Dispatch.Once
import CloudAudit.Proofs.Requests.Idle
import CloudAudit.Proofs.Runs.Alone
import CloudAudit.Proofs.Scan.Impartial
import CloudAudit.Proofs.Scan.Evaluation
import CloudAudit.Proofs.Runs.Rounds
import CloudAudit.Proofs.Runs.EndToEnd
import CloudAudit.Proofs.Runs.Histories
import CloudAudit.Proofs.Runs.Engagement
import CloudAudit.Proofs.Runs.Ending
import CloudAudit.Proofs.Runs.Delegation
import CloudAudit.Proofs.Runs.Freshness
import CloudAudit.Proofs.Listing.Reports
import CloudAudit.Proofs.Exceptions.Ownership
import CloudAudit.Proofs.World.Refusals
import CloudAudit.Proofs.Runs.Access
import CloudAudit.Proofs.Listing.Canonical
import CloudAudit.Proofs.Listing.Repeats
import CloudAudit.Proofs.Runs.Entries
import CloudAudit.Proofs.Config.Precedence
import CloudAudit.Proofs.Exceptions.OptOut
import CloudAudit.Proofs.Collect.Whole
import CloudAudit.Proofs.Collect.Stamps
import CloudAudit.Proofs.Listing.Attachment
import CloudAudit.Proofs.Scan.Origins
import CloudAudit.Proofs.Dispatch.Routing
import CloudAudit.Proofs.Text.Numerals
import CloudAudit.Proofs.Json.Reading
import CloudAudit.Proofs.Time.Calendar
import CloudAudit.Proofs.Text.Uuids
import CloudAudit.Proofs.Time.Timestamps
import CloudAudit.Proofs.Wire.Faithful
import CloudAudit.Proofs.Wire.Records
import CloudAudit.Proofs.Wire.Models
import CloudAudit.Proofs.Requests.Polling
import CloudAudit.Proofs.Requests.Interleaving
import CloudAudit.Proofs.Requests.Cancelling
import CloudAudit.Proofs.Requests.OnPath
import CloudAudit.Proofs.Schedule.Pace
import CloudAudit.Proofs.Exceptions.Paging
import CloudAudit.Proofs.Risk.Lineage
import CloudAudit.Proofs.Risk.Nearest
import CloudAudit.Proofs.Scan.Independence
import CloudAudit.Proofs.Dispatch.Delivery
import CloudAudit.Proofs.Store.Selecting
import CloudAudit.Proofs.Collect.Endings
import CloudAudit.Proofs.Contacts.Holders
