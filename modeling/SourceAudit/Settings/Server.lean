/-
The settings of the production server, taken from the environment.
-/
import SourceAudit.FileTree
import SourceAudit.Settings.Environment
import SourceAudit.Value.Json.Writer

namespace SourceAudit

/-- How the database is reached. -/
structure DatabaseSettings where
  url : String
  maxConnections : Int
  sslMode : String
  timeout : Int

/-- Tokens, limits and what may be uploaded. -/
structure SecuritySettings where
  tokenSecret : String
  tokenAlgorithm : String
  tokenLifetime : Int
  origins : List String
  maxFileSize : Int
  fileTypes : List String
  ratePerMinute : Int

/-- Which scanners run and for how long. -/
structure ScannerSettings where
  enabled : List String
  timeoutPerFile : Int
  maxConcurrent : Int
  tempFolder : Option String

/-- Where uploads are kept. -/
structure StorageSettings where
  kind : String
  localPath : String
  s3Bucket : Option String
  s3Region : Option String
  gcsBucket : Option String
  retentionDays : Int

/-- Who is told about results. -/
structure NotificationSettings where
  emailEnabled : Bool
  smtpHost : Option String
  smtpPort : Int
  smtpUser : Option String
  smtpPassword : Option String
  webhook : Option String

/-- The settings of the production server. -/
structure ServerSettings where
  environment : String
  debug : Bool
  logLevel : String
  host : String
  port : Int
  workers : Int
  database : DatabaseSettings
  security : SecuritySettings
  scanner : ScannerSettings
  storage : StorageSettings
  notifications : NotificationSettings

def ServerSettings.usualFileTypes : List String :=
  [".py", ".js", ".jsx", ".ts", ".tsx", ".java", ".go", ".rb", ".php", ".c", ".cpp", ".h",
   ".cs", ".swift", ".kt", ".json", ".yml", ".yaml"]

def DatabaseSettings.ofEnvironment (env : Environment) : Outcome DatabaseSettings := do
  return {
    url := env.text "DATABASE_URL" "postgresql://localhost/vibeauditor"
    maxConnections := ← env.whole "DB_MAX_CONNECTIONS" 20
    sslMode := env.text "DB_SSL_MODE" "require"
    timeout := ← env.whole "DB_TIMEOUT" 30 }

def SecuritySettings.ofEnvironment (env : Environment) : Outcome SecuritySettings := do
  return {
    tokenSecret := env.text "JWT_SECRET" "your-secret-key-change-in-production"
    tokenAlgorithm := env.text "JWT_ALGORITHM" "HS256"
    tokenLifetime := ← env.whole "JWT_EXPIRATION" 3600
    origins := env.list "CORS_ORIGINS" "*"
    maxFileSize := ← env.whole "MAX_FILE_SIZE" (10 * 1024 * 1024)
    fileTypes := ServerSettings.usualFileTypes
    ratePerMinute := ← env.whole "RATE_LIMIT_PER_MINUTE" 60 }

def ScannerSettings.ofEnvironment (env : Environment) : Outcome ScannerSettings := do
  return {
    enabled := env.list "ENABLED_SCANNERS" "bandit,semgrep,custom_rules"
    timeoutPerFile := ← env.whole "SCANNER_TIMEOUT" 30
    maxConcurrent := ← env.whole "MAX_CONCURRENT_SCANS" 5
    tempFolder := env.get? "TEMP_DIR" }

def StorageSettings.ofEnvironment (env : Environment) : Outcome StorageSettings := do
  return {
    kind := env.text "STORAGE_TYPE" "local"
    localPath := env.text "STORAGE_LOCAL_PATH" "/tmp/vibeauditor"
    s3Bucket := env.get? "S3_BUCKET"
    s3Region := env.get? "S3_REGION"
    gcsBucket := env.get? "GCS_BUCKET"
    retentionDays := ← env.whole "STORAGE_RETENTION_DAYS" 30 }

/-- Whom an environment has told about results. -/
def NotificationSettings.ofEnvironment (env : Environment) : Outcome NotificationSettings := do
  return {
    emailEnabled := env.switch "EMAIL_ENABLED"
    smtpHost := env.get? "SMTP_HOST"
    smtpPort := ← env.whole "SMTP_PORT" 587
    smtpUser := env.get? "SMTP_USERNAME"
    smtpPassword := env.get? "SMTP_PASSWORD"
    webhook := env.get? "WEBHOOK_URL" }

namespace ServerSettings

/-- The settings an environment gives; the first that cannot be read ends it. -/
def ofEnvironment (env : Environment) : Outcome ServerSettings := do
  let database ← DatabaseSettings.ofEnvironment env
  let security ← SecuritySettings.ofEnvironment env
  let scanner ← ScannerSettings.ofEnvironment env
  let storage ← StorageSettings.ofEnvironment env
  let notifications ← NotificationSettings.ofEnvironment env
  return {
    environment := env.text "ENVIRONMENT" "development"
    debug := env.switch "DEBUG"
    logLevel := env.text "LOG_LEVEL" "INFO"
    host := env.text "HOST" "0.0.0.0"
    port := ← env.whole "PORT" 8000
    workers := ← env.whole "WORKERS" 1
    database, security, scanner, storage, notifications }

def plainFields (c : ServerSettings) : List (String × Value) :=
  [("environment", .text c.environment), ("debug", .bool c.debug),
   ("log_level", .text c.logLevel), ("host", .text c.host), ("port", .int c.port),
   ("workers", .int c.workers)]

/-- The settings as a record: secrets and the access to mail and stores are left
out. -/
def toValue (c : ServerSettings) : Value :=
  .record (c.plainFields ++
    [("database", .record
       [("url", .text c.database.url), ("max_connections", .int c.database.maxConnections),
        ("ssl_mode", .text c.database.sslMode), ("timeout", .int c.database.timeout)]),
     ("security", .record
       [("jwt_algorithm", .text c.security.tokenAlgorithm),
        ("jwt_expiration", .int c.security.tokenLifetime),
        ("cors_origins", Value.texts c.security.origins),
        ("max_file_size", .int c.security.maxFileSize),
        ("allowed_file_types", Value.texts c.security.fileTypes),
        ("rate_limit_per_minute", .int c.security.ratePerMinute)]),
     ("scanner", .record
       [("enabled_scanners", Value.texts c.scanner.enabled),
        ("timeout_per_file", .int c.scanner.timeoutPerFile),
        ("max_concurrent_scans", .int c.scanner.maxConcurrent),
        ("temp_dir", Value.ofText? c.scanner.tempFolder)]),
     ("storage", .record
       [("type", .text c.storage.kind), ("local_path", .text c.storage.localPath),
        ("retention_days", .int c.storage.retentionDays)]),
     ("notifications", .record
       [("email_enabled", .bool c.notifications.emailEnabled),
        ("webhook_url", Value.ofText? c.notifications.webhook)])])

def toText (c : ServerSettings) : String :=
  Value.Json.indented c.toValue

/-- Settings cannot be made from a file: it has to be JSON, and then the address of
the database is still missing. -/
def ofFile (tree : FileTree) (path : String) : Outcome ServerSettings := do
  let _ ← Value.ofJson (← tree.readText path)
  .error (.missingEntries "DatabaseConfig.__init__" ["url"])

/-- The names that can be changed at run time: settings, groups of settings and
operations. -/
def names : List String :=
  ["environment", "debug", "log_level", "host", "port", "workers", "database", "security",
   "scanner", "storage", "notifications", "from_env", "to_dict", "save_to_file",
   "load_from_file"]

/-- Changes values by name; unknown names are passed over. -/
def update (shown values : List (String × Value)) : List (String × Value) :=
  Value.putAll shown (values.filter fun e => names.contains e.1)

end ServerSettings

end SourceAudit
