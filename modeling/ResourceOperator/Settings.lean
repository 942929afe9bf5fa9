import ResourceOperator.Net.Address
import ResourceOperator.Text.Search

/-!
# Settings of the operator

What the operator is told when it starts. Every setting has a flag on the command line, a variable
in the environment and a default.

* `Setting` lists the settings, `Settings` holds their values.
* `Settings.set` reads the text of one setting.
* `Settings.credentialsSecret` is the secret that holds the key to the cloud.

`Settings` is `Config`, and `credentialsSecret` is `credentials_secret`.
-/

namespace ResourceOperator

/-- How the log is written. -/
inductive LogFormat where
  | text
  | json
  deriving DecidableEq, Repr

/-- The format with a name. -/
def LogFormat.named : String → Option LogFormat
  | "text" => some .text
  | "json" => some .json
  | _ => none

/-- A setting. -/
inductive Setting where
  | region
  | credentialsSecret
  | credentialsKey
  | tokenEndpoint
  | requeueSeconds
  | errorRequeueSeconds
  | metricsAddress
  | logFormat
  deriving DecidableEq, Repr

namespace Setting

/-- Every setting, in the order in which the environment is read. -/
def all : List Setting :=
  [.region, .credentialsSecret, .credentialsKey, .tokenEndpoint, .requeueSeconds,
    .errorRequeueSeconds, .metricsAddress, .logFormat]

/-- The name of a setting on the command line. -/
def flag : Setting → String
  | region => "region"
  | credentialsSecret => "credentials-secret"
  | credentialsKey => "credentials-key"
  | tokenEndpoint => "iam-endpoint"
  | requeueSeconds => "requeue-seconds"
  | errorRequeueSeconds => "error-requeue-seconds"
  | metricsAddress => "metrics-addr"
  | logFormat => "log-format"

/-- The variable of the environment that gives a setting. -/
def variableName : Setting → String
  | region => "CLOUD_REGION"
  | credentialsSecret => "CLOUD_CREDENTIALS_SECRET"
  | credentialsKey => "CLOUD_CREDENTIALS_KEY"
  | tokenEndpoint => "IAM_ENDPOINT"
  | requeueSeconds => "REQUEUE_SECONDS"
  | errorRequeueSeconds => "ERROR_REQUEUE_SECONDS"
  | metricsAddress => "METRICS_ADDR"
  | logFormat => "LOG_FORMAT"

/-- What a setting is for, as the help says it. -/
def description : Setting → String
  | region => "Cloud region the regional APIs are addressed in"
  | credentialsSecret => "Secret holding the API key, as namespace/name"
  | credentialsKey => "Key of the API key within the credentials secret"
  | tokenEndpoint => "IAM token endpoint"
  | requeueSeconds => "Seconds between reconciliations of a healthy resource"
  | errorRequeueSeconds => "Seconds before retrying a failed reconciliation"
  | metricsAddress => "Listen address for /metrics and /healthz"
  | logFormat => "Format of the log: text or json"

/-- The setting with a name on the command line. -/
def flagged (name : String) : Option Setting :=
  all.find? fun s => s.flag == name

/-- Flags tell the settings apart. -/
theorem flagged_flag (s : Setting) : flagged s.flag = some s := by
  cases s <;> decide

end Setting

/-- The values of all settings. -/
structure Settings where
  region : String := "us-south"
  credentialsSecretName : String := "crossplane-system/cloud-credentials"
  credentialsKey : String := "apikey"
  tokenEndpoint : String := "https://iam.cloud.ibm.com/identity/token"
  requeueSeconds : Nat := 300
  errorRequeueSeconds : Nat := 30
  metricsAddress : Net.SocketAddress := .v4 ⟨0⟩ 8080
  logFormat : LogFormat := .text
  deriving DecidableEq, Repr

namespace Settings

/-- Why settings are refused, or not read any further. -/
inductive Failure where
  /-- A word that is no setting, or that stands where no value is expected. -/
  | unknownArgument
  /-- A setting that the command line gives twice. -/
  | conflict
  /-- A setting without a value. -/
  | missingValue
  /-- A value outside the listed ones. -/
  | unlistedValue
  /-- A value for something that has none. -/
  | unexpectedValue
  /-- A value of the wrong form. -/
  | malformedValue
  /-- The help is asked for. -/
  | help
  deriving DecidableEq, Repr

/-- Reads a count of seconds, which may have a plus sign and leading zeros. -/
def seconds? (s : String) : Option Nat :=
  let digits := match s.toList with
    | '+' :: rest => rest
    | cs => cs
  Net.SocketAddress.number? 18446744073709551615 digits

/-- Sets a setting to what a text says. -/
def set (settings : Settings) (s : Setting) (value : String) : Except Failure Settings :=
  match s with
  | .region => .ok { settings with region := value }
  | .credentialsSecret => .ok { settings with credentialsSecretName := value }
  | .credentialsKey => .ok { settings with credentialsKey := value }
  | .tokenEndpoint => .ok { settings with tokenEndpoint := value }
  | .requeueSeconds => match seconds? value with
    | some n => .ok { settings with requeueSeconds := n }
    | none => .error .malformedValue
  | .errorRequeueSeconds => match seconds? value with
    | some n => .ok { settings with errorRequeueSeconds := n }
    | none => .error .malformedValue
  | .metricsAddress => match Net.SocketAddress.parse? value with
    | some a => .ok { settings with metricsAddress := a }
    | none => .error .malformedValue
  | .logFormat => match LogFormat.named value with
    | some f => .ok { settings with logFormat := f }
    | none => .error .unlistedValue

/-- Namespace and name of the secret that holds the key, or what is wrong with its text. -/
def credentialsSecret (s : Settings) : Except String (String × String) :=
  match Text.cutAt ['/'] s.credentialsSecretName.toList with
  | some (c :: ns, d :: name) => .ok (String.ofList (c :: ns), String.ofList (d :: name))
  | _ => .error ("credentials secret must be namespace/name, got " ++ s.credentialsSecretName)

end Settings

end ResourceOperator
