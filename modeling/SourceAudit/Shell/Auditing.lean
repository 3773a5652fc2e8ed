/-
An audit as a step of a program: what is said during it is printed.
-/
import SourceAudit.Audit.Basic
import SourceAudit.Shell.Script

namespace SourceAudit.Script

/-- Audits a file or a folder. What is said before files are scanned is printed even
if the scan fails. -/
def performAudit (auditor : Auditor) (target : String) : Script Audit := do
  let tree := (← get).tree
  write (Audit.opening (Framework.detect tree target))
  let audit ← ofOutcome (auditor.audit (← read).full tree target).1
  write audit.closing
  return audit

end SourceAudit.Script
