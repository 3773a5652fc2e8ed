import SourceAudit.Framework.Advice
import SourceAudit.Main
import SourceAudit.Package
import SourceAudit.Proofs.Audit.Bare
import SourceAudit.Proofs.Audit.Enabling
import SourceAudit.Proofs.Audit.Exclusion
import SourceAudit.Proofs.Audit.Repetition
import SourceAudit.Proofs.Code.Explanation
import SourceAudit.Proofs.Framework.Exactness
import SourceAudit.Proofs.Framework.Order
import SourceAudit.Proofs.Live.Conversation
import SourceAudit.Proofs.Live.Requests
import SourceAudit.Proofs.Report.FileGroups
import SourceAudit.Proofs.Report.Sections
import SourceAudit.Proofs.Rule.DataLoading
import SourceAudit.Proofs.Rule.DeadCode
import SourceAudit.Proofs.Rule.LongFunctions
import SourceAudit.Proofs.Rule.Routes
import SourceAudit.Proofs.Scan.FirstLines
import SourceAudit.Proofs.Scan.Records
import SourceAudit.Proofs.Script.Repair
import SourceAudit.Proofs.Service.Cleanup
import SourceAudit.Proofs.Service.FailedUploads
import SourceAudit.Proofs.Service.FinishedScans
import SourceAudit.Proofs.Service.ScanRows
import SourceAudit.Proofs.Settings.Secrets
import SourceAudit.Proofs.Standard.Named
import SourceAudit.Proofs.Standard.RuleWords
import SourceAudit.Proofs.Store.Holding
import SourceAudit.Proofs.Store.Profiles
import SourceAudit.Script.Installation
import SourceAudit.Script.Launch
import SourceAudit.Script.Production
import SourceAudit.Script.Restart
import SourceAudit.Script.SchemaCache
import SourceAudit.Script.Showcase
import SourceAudit.Script.Tour
import SourceAudit.Script.Trial
import SourceAudit.Script.Walkthrough
import SourceAudit.Service.StandIn
import SourceAudit.Text.Base64
