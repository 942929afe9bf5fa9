import ResourceOperator.Cloud.Client
import ResourceOperator.Kind
import ResourceOperator.Settings.Reading

/-!
# The command line

Reads the settings and says what the operator is going to do with them. It ends with code 2 when the
settings are refused, and with code 1 when they name no secret.

It is the part of `main` before the first call to the cluster.
-/

namespace ResourceOperator

/-- How the operator is called. -/
def usage : String :=
  let option := fun (s : Setting) =>
    "      --" ++ s.flag ++ " <VALUE>\n          " ++ s.description ++ " [env: " ++
      s.variableName ++ "]\n"
  "Reconciles VPC, Subnet, ResourceInstance, ResourceKey and Topic resources against the cloud\n" ++
    "\nOptions:\n" ++ String.join (Setting.all.map option) ++ "  -h, --help\n          Print help\n"

/-- The text of a refusal. -/
def Settings.Failure.message : Settings.Failure → String
  | .unknownArgument => "unexpected argument"
  | .conflict => "an argument cannot be used more than once"
  | .missingValue => "a value is required"
  | .unlistedValue => "the value is none of the possible values"
  | .unexpectedValue => "an argument takes no value"
  | .malformedValue => "invalid value"
  | .help => usage

/-- What the operator says when it starts. -/
def Settings.startLines (s : Settings) : List String :=
  let endpoints := Cloud.Endpoints.ofRegion s.region
  ["region " ++ s.region ++ ", networks at " ++ endpoints.network,
    "metrics at " ++ s.metricsAddress.text,
    "requeue after " ++ toString s.requeueSeconds ++ " s, after a failure " ++
      toString s.errorRequeueSeconds ++ " s"] ++
    Kind.all.map fun k => "watching " ++ k.plural ++ "." ++ k.apiVersion

end ResourceOperator

open ResourceOperator in
/-- Reads the settings from the command line and the environment. -/
def main (args : List String) : IO UInt32 := do
  let given ← Setting.all.filterMapM fun s => do
    let value ← IO.getEnv s.variableName
    pure (value.map fun v => (s.variableName, v))
  match Settings.read args fun name => given.lookup name with
  | .error .help => do
    IO.print usage
    pure 0
  | .error e => do
    IO.eprintln ("error: " ++ e.message)
    pure 2
  | .ok settings => match settings.credentialsSecret with
    | .error message => do
      IO.eprintln ("error: " ++ message)
      pure 1
    | .ok _ => do
      for line in settings.startLines do
        IO.println line
      pure 0
