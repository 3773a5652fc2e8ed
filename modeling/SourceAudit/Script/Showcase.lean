/-
A page that shows what an audit can show: sample findings with the standards they
touch, drawn by a script in the page.
-/
import SourceAudit.Shell.Script
import SourceAudit.Value.Json.Writer

namespace SourceAudit.Showcase

-- ============================================================== sample

def standard (name part description url : String) : Value :=
  .record [("name", .text name), ("section", .text part), ("description", .text description),
    ("url", .text url)]

def finding (rule severity category message file : String) (line : Int) (snippet : String)
    (confidence : Float) (metadata : List (String × String)) (standards : List Value)
    (frameworks : List String) (remediation : String) : Value :=
  .record [("rule_id", .text rule), ("severity", .text severity), ("category", .text category),
    ("message", .text message), ("file_path", .text file), ("line_number", .int line),
    ("code_snippet", .text snippet), ("confidence", .real confidence),
    ("metadata", .record (metadata.map fun (k, v) => (k, .text v))),
    ("standards", .list standards), ("compliance_frameworks", Value.texts frameworks),
    ("remediation", .text remediation)]

def findings : List Value :=
  [finding "nodejs_hardcoded_secrets" "critical" "Security"
     "Hardcoded secret detected in source code. This exposes sensitive credentials and violates multiple security standards."
     "src/config/database.js" 13 "const DB_PASS = 'changeme123';" 0.95
     [("iso27001", "A.9.4.3"), ("owasp", "A02-2021"), ("cwe", "CWE-798"), ("gdpr", "Art. 32")]
     [standard "ISO 27001" "A.9.4.3 - Access Control"
        "Privileged access rights shall be allocated and used on a restricted basis"
        "https://www.iso.org/standard/54534.html",
      standard "OWASP Top 10 2021" "A02-2021 - Cryptographic Failures"
        "Failures related to cryptography which often leads to sensitive data exposure"
        "https://owasp.org/Top10/A02_2021-Cryptographic_Failures/",
      standard "CWE" "CWE-798 - Use of Hard-coded Credentials"
        "The software contains hard-coded credentials, such as a password or cryptographic key"
        "https://cwe.mitre.org/data/definitions/798.html"]
     ["ISO 27001", "GDPR", "PCI DSS", "HIPAA"]
     "Remove hardcoded credentials and use environment variables or secure configuration management instead. Implement proper secrets management using tools like HashiCorp Vault or AWS Secrets Manager.",
   finding "express_cors_misconfiguration" "high" "Security Configuration"
     "Permissive CORS configuration allows requests from any origin, potentially enabling cross-origin attacks."
     "src/middleware/cors.js" 8 "app.use(cors());" 0.88
     [("iso27001", "A.13.1.1"), ("owasp", "A05-2021"), ("cwe", "CWE-346")]
     [standard "ISO 27001" "A.13.1.1 - Network Controls"
        "Network controls shall be managed and controlled to protect information"
        "https://www.iso.org/standard/54534.html",
      standard "OWASP Top 10 2021" "A05-2021 - Security Misconfiguration"
        "Security misconfiguration is commonly a result of insecure default configurations"
        "https://owasp.org/Top10/A05_2021-Security_Misconfiguration/"]
     ["ISO 27001", "OWASP", "PCI DSS"]
     "Configure CORS to only allow specific trusted origins instead of using wildcard (*) or no restrictions. Implement proper origin validation.",
   finding "nodejs_information_disclosure" "high" "Information Disclosure"
     "Error handler returns detailed stack traces to clients, potentially exposing sensitive system information."
     "src/middleware/errorHandler.js" 18 "res.status(500).json(\x7b error: err.message, stack: err.stack \x7d);" 0.92
     [("iso27001", "A.12.4.1"), ("owasp", "A09-2021"), ("cwe", "CWE-209")]
     [standard "ISO 27001" "A.12.4.1 - Event Logging"
        "Event logs recording user activities shall be produced and kept"
        "https://www.iso.org/standard/54534.html",
      standard "OWASP Top 10 2021" "A09-2021 - Security Logging and Monitoring Failures"
        "Insufficient logging and monitoring, coupled with missing or ineffective integration"
        "https://owasp.org/Top10/A09_2021-Security_Logging_and_Monitoring_Failures/"]
     ["ISO 27001", "GDPR"]
     "Return generic error messages to clients and log detailed errors server-side only. Implement proper error handling that doesn't expose internal system details.",
   finding "nodejs_missing_authentication" "critical" "Authentication"
     "Admin endpoint lacks authentication, allowing unauthorized access to sensitive configuration data."
     "src/routes/admin.js" 25 "app.get('/admin/config', (req, res) => \x7b" 0.98
     [("iso27001", "A.9.1.2"), ("owasp", "A07-2021"), ("cwe", "CWE-306")]
     [standard "ISO 27001" "A.9.1.2 - Access to Networks and Network Services"
        "Access to networks and network services shall be controlled"
        "https://www.iso.org/standard/54534.html",
      standard "OWASP Top 10 2021" "A07-2021 - Identification and Authentication Failures"
        "Confirmation of the user's identity, authentication, and session management"
        "https://owasp.org/Top10/A07_2021-Identification_and_Authentication_Failures/"]
     ["ISO 27001", "PCI DSS", "HIPAA"]
     "Implement proper authentication middleware for admin endpoints. Use JWT tokens, session management, or OAuth2 for secure access control.",
   finding "nodejs_pii_logging" "medium" "Privacy"
     "Potential PII data is being logged in plaintext without encryption or access controls."
     "src/utils/logger.js" 42 "fs.appendFileSync('./app_logs.txt', JSON.stringify(req.body));" 0.85
     [("iso27001", "A.10.1.2"), ("gdpr", "Art. 25"), ("cwe", "CWE-532")]
     [standard "GDPR" "Art. 25 - Data Protection by Design"
        "Data protection by design and by default"
        "https://gdpr-info.eu/art-25-gdpr/",
      standard "ISO 27001" "A.10.1.2 - Key Management"
        "Keys shall be protected against modification, loss and destruction"
        "https://www.iso.org/standard/54534.html"]
     ["GDPR", "HIPAA"]
     "Implement data classification and avoid logging PII. If logging is necessary, use encryption and proper access controls. Consider data anonymization techniques."]

def sample : Value :=
  .record
    [("scan_id", .text "demo-scan-001"),
     ("summary", .record
       [("total_issues", .int 5), ("critical", .int 2), ("high", .int 2), ("medium", .int 1), ("low", .int 0)]),
     ("compliance_summary", .record
       [("ISO 27001", .int 4), ("OWASP", .int 3), ("GDPR", .int 2), ("PCI DSS", .int 3), ("HIPAA", .int 1)]),
     ("issues", .list findings)]

-- ================================================================ page

/-- The page up to the sample, with a tab for each level. -/
def pageStart : String :=
  r#"<!DOCTYPE html>
<html lang="en">
<head>
	<meta charset="UTF-8">
	<meta name="viewport" content="width=device-width, initial-scale=1.0">
	<title>VibeCodeAuditor - Enhanced Compliance UI Demo</title>
	<script src="https://unpkg.com/react@18/umd/react.development.js"></script>
	<script src="https://unpkg.com/react-dom@18/umd/react-dom.development.js"></script>
	<script src="https://unpkg.com/@babel/standalone/babel.min.js"></script>
	<script src="https://unpkg.com/lucide-react@latest/dist/umd/lucide-react.js"></script>
	<script src="https://cdn.tailwindcss.com"></script>
	<style>
		body { font-family: -apple-system, BlinkMacSystemFont, 'Segoe UI', 'Roboto', sans-serif; }
		.demo-header { 
			background: linear-gradient(135deg, #667eea 0%, #764ba2 100%);
			color: white;
			padding: 2rem;
			margin-bottom: 2rem;
		}
	</style>
</head>
<body class="bg-gray-50">
	<div class="demo-header">
		<div class="max-w-7xl mx-auto">
			<h1 class="text-4xl font-bold mb-2">🛡️ VibeCodeAuditor</h1>
			<h2 class="text-2xl font-semibold mb-4">Enhanced Compliance UI Demo</h2>
			<p class="text-lg opacity-90">World-class security auditing with comprehensive compliance standards display</p>
			<div class="mt-4 flex items-center space-x-6 text-sm">
				<span>✅ ISO 27001 Controls</span>
				<span>✅ OWASP Top 10 2021</span>
				<span>✅ GDPR Compliance</span>
				<span>✅ PCI DSS Standards</span>
				<span>✅ HIPAA Requirements</span>
			</div>
		</div>
	</div>
	
	<div id="root"></div>

	<script type="text/babel">
		const { useState } = React;
		const { AlertTriangle, CheckCircle, Info, XCircle, ChevronDown, ChevronUp, ExternalLink, Shield, BookOpen, Download, Filter } = lucideReact;

		// Sample data
		const sampleData = "#

/-- The part of the page that draws a badge for an entry of a finding. -/
def badge (field key colour icon text : String) : String :=
  r#"				if (issue.metadata?."# ++ field ++ r#") {
					badges.push(
						React.createElement('span', {
							key: ""# ++ key ++ r#"-meta",
							className: "inline-flex items-center px-2 py-1 text-xs bg-"# ++ colour ++
    "-100 text-" ++ colour ++ "-800 rounded-full border border-" ++ colour ++ r#"-200"
						}, [
							React.createElement("# ++ icon ++ r#", { key: "icon", className: "w-3 h-3 mr-1" }),
							"# ++ text ++ r#"
						])
					);
				}
"#

def badges : String :=
  "				\n".intercalate
    [badge "iso27001" "iso" "red" "Shield" "`ISO 27001: $\x7bissue.metadata.iso27001\x7d`",
     badge "owasp" "owasp" "orange" "Shield" "`OWASP: $\x7bissue.metadata.owasp\x7d`",
     badge "cwe" "cwe" "blue" "BookOpen" "issue.metadata.cwe",
     badge "gdpr" "gdpr" "green" "Shield" "`GDPR: $\x7bissue.metadata.gdpr\x7d`"]

/-- The part of the page that draws a card with a count. -/
def card (field colour title : String) : String :=
  r#"						<div className="bg-white p-6 rounded-lg shadow-sm border border-gray-200">
							<div className="text-center">
								<p className="text-2xl font-bold text-"# ++ colour ++ r#"">{sampleData.summary."# ++ field ++ r#"}</p>
								<p className="text-sm text-gray-600">"# ++ title ++ r#"</p>
							</div>
						</div>
"#

def cards : String :=
  card "total_issues" "gray-900" "Total Issues" ++ card "critical" "red-600" "Critical" ++
    card "high" "orange-600" "High" ++ card "medium" "yellow-600" "Medium" ++
    card "low" "green-600" "Low"

/-- The page after the sample: how a finding is drawn, and all that is drawn. -/
def pageEnd : String :=
  r#";

		// Enhanced IssueCard Component (same as production)
		const IssueCard = ({ issue, index }) => {
			const [showDetails, setShowDetails] = useState(false);

			const severityColors = {
				critical: 'text-red-600 bg-red-50 border-red-200',
				high: 'text-orange-600 bg-orange-50 border-orange-200',
				medium: 'text-yellow-600 bg-yellow-50 border-yellow-200',
				low: 'text-green-600 bg-green-50 border-green-200',
			};

			const severityIcons = {
				critical: XCircle,
				high: AlertTriangle,
				medium: Info,
				low: CheckCircle,
			};

			const Icon = severityIcons[issue.severity];

			// Helper function to render standards badges
			const renderStandardsBadges = () => {
				const badges = [];
				
"# ++ badges ++ r#"
				return badges.length > 0 ? (
					<div className="flex flex-wrap gap-2 mb-3">
						{badges}
					</div>
				) : null;
			};

			// Helper function to render compliance frameworks
			const renderComplianceFrameworks = () => {
				if (!issue.compliance_frameworks || issue.compliance_frameworks.length === 0) return null;

				const frameworkColors = {
					'ISO 27001': 'bg-red-100 text-red-700 border-red-200',
					'OWASP': 'bg-orange-100 text-orange-700 border-orange-200',
					'GDPR': 'bg-green-100 text-green-700 border-green-200',
					'PCI DSS': 'bg-blue-100 text-blue-700 border-blue-200',
					'HIPAA': 'bg-purple-100 text-purple-700 border-purple-200',
					'NIST': 'bg-indigo-100 text-indigo-700 border-indigo-200',
				};

				return (
					<div className="bg-red-50 border border-red-200 p-4 rounded-md mb-3">
						<div className="flex items-center justify-between mb-3">
							<p className="text-sm font-semibold text-red-900 flex items-center">
								<AlertTriangle className="w-4 h-4 mr-2" />
								Regulatory Compliance Impact
							</p>
							<span className="text-xs text-red-700 bg-red-100 px-2 py-1 rounded-full">
								{issue.compliance_frameworks.length} framework{issue.compliance_frameworks.length !== 1 ? 's' : ''} affected
							</span>
						</div>
						<div className="grid grid-cols-1 sm:grid-cols-2 gap-2">
							{issue.compliance_frameworks.map((framework, idx) => {
								const colorClass = frameworkColors[framework] || 'bg-gray-100 text-gray-700 border-gray-200';
								return (
									<div key={idx} className={`px-3 py-2 text-sm rounded-md border ${colorClass} flex items-center justify-between`}>
										<div className="flex items-center space-x-2">
											<Shield className="w-3 h-3" />
											<span className="font-medium">{framework}</span>
										</div>
										<span className="text-xs opacity-75">Violation</span>
									</div>
								);
							})}
						</div>
						<div className="mt-3 p-2 bg-red-100 rounded text-xs text-red-800">
							<strong>Impact:</strong> This security issue may result in non-compliance with the above regulatory frameworks, potentially leading to audit failures, penalties, or security breaches.
						</div>
					</div>
				);
			};

			return (
				<div className={`bg-white rounded-lg shadow-sm border-l-4 ${severityColors[issue.severity]} p-6 mb-4`}>
					<div className="flex items-start space-x-4">
						<Icon className={`h-6 w-6 mt-1 ${severityColors[issue.severity].split(' ')[0]}`} />
						<div className="flex-1">
							<div className="flex items-center justify-between mb-2">
								<h3 className="text-lg font-semibold text-gray-900">{issue.rule_id}</h3>
								<div className="flex items-center space-x-2">
									<span className={`px-2 py-1 text-xs font-medium rounded-full ${severityColors[issue.severity]}`}>
										{issue.severity.toUpperCase()}
									</span>
									<span className="px-2 py-1 text-xs font-medium rounded-full bg-gray-100 text-gray-800">
										{issue.category}
									</span>
									{(issue.standards && issue.standards.length > 0) && (
										<span className="px-2 py-1 text-xs font-medium rounded-full bg-purple-100 text-purple-800 flex items-center">
											<Shield className="w-3 h-3 mr-1" />
											{issue.standards.length} Standards
										</span>
									)}
									{(issue.compliance_frameworks && issue.compliance_frameworks.length > 0) && (
										<span className="px-2 py-1 text-xs font-medium rounded-full bg-red-100 text-red-800 flex items-center">
											<AlertTriangle className="w-3 h-3 mr-1" />
											{issue.compliance_frameworks.length} Compliance
										</span>
									)}
								</div>
							</div>

							{/* Quick Compliance Summary */}
							{(issue.compliance_frameworks?.length > 0 || issue.standards?.length > 0) && (
								<div className={`border p-3 rounded-md mb-3 ${
									issue.severity === 'critical' ? 'bg-red-50 border-red-200' :
									issue.severity === 'high' ? 'bg-orange-50 border-orange-200' :
									'bg-yellow-50 border-yellow-200'
								}`}>
									<div className="flex items-start space-x-2">
										<AlertTriangle className={`w-4 h-4 mt-0.5 flex-shrink-0 ${
											issue.severity === 'critical' ? 'text-red-600' :
											issue.severity === 'high' ? 'text-orange-600' :
											'text-yellow-600'
										}`} />
										<div className="text-sm">
											<span className={`font-medium ${
												issue.severity === 'critical' ? 'text-red-800' :
												issue.severity === 'high' ? 'text-orange-800' :
												'text-yellow-800'
											}`}>
												{issue.severity === 'critical' ? 'Critical Compliance Risk:' :
												 issue.severity === 'high' ? 'High Compliance Risk:' :
												 'Compliance Alert:'}
											</span>
											<span className={`ml-1 ${
												issue.severity === 'critical' ? 'text-red-700' :
												issue.severity === 'high' ? 'text-orange-700' :
												'text-yellow-700'
											}`}>
												This issue violates {issue.compliance_frameworks?.length || 0} regulatory framework{(issue.compliance_frameworks?.length || 0) !== 1 ? 's' : ''} 
												{issue.standards?.length > 0 && ` and ${issue.standards.length} security standard${issue.standards.length !== 1 ? 's' : ''}`}.
												{issue.severity === 'critical' && ' Immediate remediation required to avoid audit failures.'}
											</span>
										</div>
									</div>
								</div>
							)}

							{renderStandardsBadges()}

							<p className="text-gray-700 mb-3">{issue.message}</p>

							<div className="text-sm text-gray-600 mb-3">
								<span className="font-medium">File:</span> {issue.file_path}
								{issue.line_number && (
									<>
										<span className="mx-2">•</span>
										<span className="font-medium">Line:</span> {issue.line_number}
									</>
								)}
							</div>

							{issue.code_snippet && (
								<div className="bg-gray-50 p-3 rounded-md mb-3">
									<p className="text-sm font-medium text-gray-700 mb-1">Code:</p>
									<code className="text-sm text-gray-800 font-mono">{issue.code_snippet}</code>
								</div>
							)}

							<button
								onClick={() => setShowDetails(!showDetails)}
								className="flex items-center space-x-2 text-sm text-blue-600 hover:text-blue-800 mb-3"
							>
								{showDetails ? <ChevronUp className="w-4 h-4" /> : <ChevronDown className="w-4 h-4" />}
								<span>{showDetails ? 'Hide' : 'Show'} Standards & Compliance Details</span>
							</button>

							{showDetails && (
								<div className="space-y-3">
									{renderComplianceFrameworks()}
								</div>
							)}

							{issue.remediation && (
								<div className="bg-blue-50 p-3 rounded-md">
									<p className="text-sm font-medium text-blue-800 mb-1 flex items-center">
										<CheckCircle className="w-4 h-4 mr-2" />
										Remediation
									</p>
									<p className="text-sm text-blue-700">{issue.remediation}</p>
								</div>
							)}
						</div>
					</div>
				</div>
			);
		};

		const App = () => {
			return (
				<div className="max-w-7xl mx-auto px-4 pb-8">
					{/* Summary Cards */}
					<div className="grid grid-cols-1 md:grid-cols-5 gap-6 mb-8">
"# ++ cards ++ r#"					</div>

					{/* Compliance Overview */}
					<div className="bg-white p-6 rounded-lg shadow-sm border border-gray-200 mb-6">
						<div className="flex items-center mb-4">
							<Shield className="h-5 w-5 text-purple-600 mr-2" />
							<h2 className="text-lg font-semibold text-gray-900">Compliance Impact Overview</h2>
						</div>
						<div className="grid grid-cols-1 md:grid-cols-5 gap-4">
							{Object.entries(sampleData.compliance_summary).map(([framework, count]) => (
								<div key={framework} className="bg-red-50 border border-red-200 p-3 rounded-md">
									<div className="flex items-center justify-between">
										<span className="text-sm font-medium text-red-900">{framework}</span>
										<span className="text-sm font-bold text-red-700">{count} violations</span>
									</div>
								</div>
							))}
						</div>
					</div>

					{/* Issues List */}
					<div className="space-y-4">
						{sampleData.issues.map((issue, index) => (
							<IssueCard key={index} issue={issue} index={index} />
						))}
					</div>

					{/* Demo Footer */}
					<div className="mt-12 bg-white p-6 rounded-lg shadow-sm border border-gray-200">
						<h3 className="text-lg font-semibold text-gray-900 mb-4">🎉 Enhanced Compliance UI Features</h3>
						<div className="grid grid-cols-1 md:grid-cols-2 gap-6">
							<div>
								<h4 className="font-medium text-gray-900 mb-2">✅ Compliance Standards</h4>
								<ul className="text-sm text-gray-600 space-y-1">
									<li>• ISO 27001 control mappings</li>
									<li>• OWASP Top 10 2021 alignment</li>
									<li>• GDPR privacy requirements</li>
									<li>• PCI DSS security standards</li>
									<li>• HIPAA healthcare compliance</li>
								</ul>
							</div>
							<div>
								<h4 className="font-medium text-gray-900 mb-2">🚀 Enhanced Features</h4>
								<ul className="text-sm text-gray-600 space-y-1">
									<li>• Severity-based compliance risk indicators</li>
									<li>• Interactive expandable compliance details</li>
									<li>• Professional standards badges</li>
									<li>• Regulatory framework impact assessment</li>
									<li>• Direct links to official documentation</li>
								</ul>
							</div>
						</div>
					</div>
				</div>
			);
		};

		ReactDOM.render(<App />, document.getElementById('root'));
	</script>
</body>
</html>"#

def page : String :=
  let spaced := Text.replace "\t" "    "
  spaced pageStart ++ Value.Json.indentedAt 8 0 sample ++ spaced pageEnd

def file : String := "enhanced_compliance_demo.html"

open Script

def openPage (place : String) : Script Unit :=
  rescue (do
    note (.browsed ("file://" ++ place))
    if let some reason := (← read).browserFailure then throw (.system reason)
    say "✅ Demo opened in browser!") fun f =>
    sayAll ["⚠️  Could not auto-open browser: " ++ f.message, "💡 Manually open: " ++ place]

/-- Writes the page and opens it in a browser: the file. -/
def create : Script String := do
  writeText file page
  let place := (← read).folder ++ "/" ++ file
  sayAll ["🎉 Enhanced Compliance UI Demo Created!", Text.repeated 50 "=",
    "📁 Demo file: " ++ place, "🌐 Opening in browser..."]
  openPage place
  sayAll ["\n🛡️  Demo Features:",
    "   ✅ Enhanced IssueCard with compliance standards",
    "   ✅ Severity-based compliance risk indicators",
    "   ✅ Interactive expandable compliance details",
    "   ✅ Professional standards badges (ISO 27001, OWASP, etc.)",
    "   ✅ Regulatory framework impact assessment",
    "   ✅ Compliance overview dashboard"]
  return file

end SourceAudit.Showcase
