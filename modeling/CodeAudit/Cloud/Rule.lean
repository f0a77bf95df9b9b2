import CodeAudit.Finding.Basic
import CodeAudit.Pattern.Code

/-!
# Rules for obstacles to running in the cloud

A rule is a pattern of lines with the issue that a matching line gives.  Two further patterns look
for what a project should have: a health endpoint, and settings from the environment.
-/

namespace CodeAudit
namespace Cloud

open Pattern TextPattern

/-- A pattern of lines, and what is reported for them. -/
structure Rule where
  category : String
  severity : Severity
  pattern : TextPattern
  description : String
  recommendation : String

/-- Addresses of hosts in the text. -/
def hardcodedHost : Rule where
  category := "Configuration"
  severity := .medium
  pattern := anyOf
    [inOrder
      [anyOf [oneOfAnyCase ["http", "https", "mongodb", "redis", "amqp"],
         seq (anyCase "jdbc:") word],
       exactly "://", either (anyCase "localhost") address],
     inOrder [quote, address, optional (seq (exactly ":") (plus digit)), quote],
     inOrder [edge, anyCase "localhost:", upTo digit 2 3, edge]]
  description := "Hardcoded host or IP address"
  recommendation := "Read endpoints from environment variables or a configuration service."

/-- Secrets in the text. -/
def storedSecret : Rule where
  category := "Secrets"
  severity := .high
  pattern := assignedTo (anyOf
    [oneOfAnyCase ["password", "passwd", "secret"], joined "api" "key", joined "access" "key"])
  description := "Credential stored in code or configuration"
  recommendation := "Move credentials to a managed secret store and inject them at runtime."

/-- Files written on the machine itself. -/
def localFile : Rule where
  category := "Storage"
  severity := .medium
  pattern := anyOf
    [construction ["FileOutputStream", "FileWriter"],
     inOrder [call (exactly "open"), arguments, exactly ",", blanks, quote, among "wa",
       optional (exactly "b"), quote],
     call (oneOf ["fs.writeFileSync", "File.WriteAllText", "ioutil.WriteFile", "os.WriteFile"])]
  description := "Writes to the local filesystem, which is ephemeral on most cloud runtimes"
  recommendation := "Persist files in object storage instead of local disk."

/-- Sessions and caches inside the process. -/
def inProcessState : Rule where
  category := "State"
  severity := .medium
  pattern := anyOf
    [inOrder [edge, exactly "HttpSession", edge], call (exactly "request.getSession"),
     inOrder [edge, exactly "session[", quote], exactly "express-session",
     inOrder [exactly "static", gap, optional (seq (exactly "final") gap),
       oneOf ["Map", "HashMap", "ConcurrentHashMap", "List"], exactly "<"]]
  description := "In-process session or cache state prevents horizontal scaling"
  recommendation := "Keep instances stateless and move shared state to a managed cache."

/-- Logs written to files. -/
def logFile : Rule where
  category := "Logging"
  severity := .low
  pattern := anyOf
    [call (anyCase "FileHandler"), anyCase "RollingFileAppender",
     inOrder [edge, anyCase "FileAppender", edge], anyCase "logging.FileHandler",
     inOrder [anyCase "filename", blanks, exactly "=", blanks, quote, plus (outside "'\""),
       anyCase ".log", quote]]
  description := "Logs written to local files"
  recommendation := "Log to stdout/stderr and ship logs to the platform's log service."

/-- Jobs that the process schedules itself. -/
def inProcessSchedule : Rule where
  category := "Scheduling"
  severity := .low
  pattern := anyOf
    [seq (exactly "@Scheduled") edge, construction ["Timer"], exactly "ScheduledExecutorService",
     call (exactly "setInterval")]
  description := "In-process scheduled job runs once per replica"
  recommendation := "Trigger scheduled work from a managed scheduler."

/-- All rules, in the order in which they are tried. -/
def rules : List Rule :=
  [hardcodedHost, storedSecret, localFile, inProcessState, logFile, inProcessSchedule]

/-- The pattern of a comment line. -/
def commentLine : TextPattern := lineStartingWith ["//", "#", "*", "/*", "<!--"]

/-- Names of health endpoints. -/
def healthEndpoint : TextPattern :=
  anyOf
    [seq (oneOfAnyCase ["/health", "/healthz", "/ready", "/readyz", "/live", "/livez"]) edge,
     oneOfAnyCase ["/actuator/health", "liveness", "readiness"]]

/-- Settings that are read from the environment. -/
def environmentSetting : TextPattern :=
  anyOf
    [oneOf ["System.getenv", "os.environ", "os.getenv", "process.env",
       "Environment.GetEnvironmentVariable", "os.Getenv", "std::env::var"],
     inOrder [exactly "$\x7b", plus (element fun c => 'A' ≤ c && c ≤ 'Z' || c = '_'),
       exactly "\x7d"]]

end Cloud
end CodeAudit
