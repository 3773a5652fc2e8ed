/-
The report for other programs: findings and their counts as JSON.
-/
import SourceAudit.Report.Basic
import SourceAudit.Value.Json.Writer

namespace SourceAudit.Report

/-- What a report for other programs says about itself. -/
def jsonLabel : Value :=
  .record [("format", .text "json"), ("version", .text "1.0"),
    ("generator", .text "VibeCodeAuditor")]

def json (r : ReportData) : String :=
  Value.Json.indented (.record (resultsRecord r.findings jsonLabel))

end SourceAudit.Report
