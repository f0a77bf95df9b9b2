import CodeAudit.Json.Reader

/-!
# Cloud providers

A provider has a managed service for most categories of issues.
-/

namespace CodeAudit

open Json

/-- A cloud provider. -/
inductive Provider where
  | aws
  | azure
  | gcp
  deriving DecidableEq, Inhabited

namespace Provider

/-- All providers. -/
def all : List Provider := [aws, azure, gcp]

/-- The name shown to a reader. -/
def label : Provider → String
  | aws => "AWS"
  | azure => "Azure"
  | gcp => "Google Cloud"

/-- The name inside a record and on the command line. -/
def tag : Provider → String
  | aws => "aws"
  | azure => "azure"
  | gcp => "gcp"

/-- The provider with exactly this name inside a record. -/
def tagged? (tag : String) : Option Provider := all.find? fun provider => provider.tag == tag

/-- The services of all three providers for a category. -/
def services? : (category : String) → Option (String × String × String)
  | "Storage" => some ("Amazon S3", "Azure Blob Storage", "Cloud Storage")
  | "State" => some ("Amazon ElastiCache for Redis", "Azure Cache for Redis", "Memorystore")
  | "Logging" => some ("CloudWatch Logs", "Azure Monitor Logs", "Cloud Logging")
  | "Secrets" => some ("AWS Secrets Manager", "Azure Key Vault", "Secret Manager")
  | "Configuration" =>
    some ("AWS Systems Manager Parameter Store", "Azure App Configuration",
      "Cloud Run environment configuration")
  | "Containerization" =>
    some ("Amazon ECS or EKS", "Azure Container Apps or AKS", "Cloud Run or GKE")
  | "Observability" =>
    some ("Elastic Load Balancing health checks", "Application Gateway health probes",
      "Cloud Load Balancing health checks")
  | "Scheduling" =>
    some ("Amazon EventBridge Scheduler", "Azure Functions timer triggers", "Cloud Scheduler")
  | _ => none

/-- The managed service for issues of a category. -/
def service? (provider : Provider) (category : String) : Option String :=
  (services? category).map fun (onAws, onAzure, onGcp) =>
    match provider with
    | aws => onAws
    | azure => onAzure
    | gcp => onGcp

/-- The JSON value of a provider. -/
def toValue (provider : Provider) : Value := .text provider.tag

/-- Reads the name of a provider. -/
def reader : Reader := Reader.label (all.map tag)

/-- The provider of a value. -/
def ofValue? (value : Value) : Option Provider := value.asText?.bind tagged?

end Provider

end CodeAudit
