import ResourceOperator.Net.Exchange
import ResourceOperator.Number.Binary64
import ResourceOperator.Table

/-!
# Metrics

How many reconciliations there have been, by kind and outcome, and how long they took, by kind.
`Metrics.text` writes them in the exposition format: families in ascending order of their names, and
the series of a family in ascending order of their labels. A series without an observation is left
out, and so is a family without a series. `Metrics.serve` is the endpoint for metrics and health.

* `Histogram` counts observations below each of a list of bounds.
* `Metrics.count` is the view: `count_record` says what a record does to it.

Model of `ReconcileMetrics`: `record`, `gather` (`Metrics.text`) and `handle_request`
(`Metrics.serve`).
-/

namespace ResourceOperator

namespace Metrics

/-- How a reconciliation ends. -/
inductive Result where
  | success
  | failure
  deriving DecidableEq, Repr

/-- The label of an outcome. -/
def Result.label : Result → String
  | .success => "success"
  | .failure => "error"

/-- The upper bounds of the buckets in thousandths of a second, with their texts. -/
def bucketBounds : List (Nat × String) :=
  [(5, "0.005"), (10, "0.01"), (25, "0.025"), (50, "0.05"), (100, "0.1"), (250, "0.25"),
    (500, "0.5"), (1000, "1"), (2500, "2.5"), (5000, "5"), (10000, "10")]

/-- The number nearest to a count of thousandths, up to what fits. -/
def thousandths (n : Nat) : Binary64 :=
  (Binary64.ofRatio false n 1000).getD .zero

/-- Seconds of a duration: the whole ones and the fraction are rounded, and then their sum. -/
def secondsOfMillis (millis : Nat) : Binary64 :=
  let whole := (Binary64.ofInt (millis / 1000)).getD .zero
  (whole.add (thousandths (millis % 1000))).getD .zero

/-- Durations of one kind: how many there are, how many of them do not exceed each bound, and their
sum. -/
structure Histogram where
  counts : List Nat := bucketBounds.map fun _ => 0
  total : Nat := 0
  sum : Binary64 := .zero
  deriving DecidableEq, Repr

/-- The magnitude of the one number does not exceed that of the other. -/
def atMost (x y : Binary64) : Bool :=
  x.ratio.1 * y.ratio.2 ≤ y.ratio.1 * x.ratio.2

/-- Adds a duration. -/
def Histogram.observe (h : Histogram) (seconds : Binary64) : Histogram :=
  let counted := fun (bound : Nat × String) (n : Nat) =>
    if atMost seconds (thousandths bound.1) then n + 1 else n
  { counts := List.zipWith counted bucketBounds h.counts
    total := h.total + 1
    sum := (h.sum.add seconds).getD h.sum }

/-- What is known of the reconciliations of one kind. -/
structure Series where
  successes : Nat := 0
  failures : Nat := 0
  durations : Histogram := {}
  deriving DecidableEq, Repr

/-- The number of reconciliations with an outcome. -/
def Series.count (s : Series) : Result → Nat
  | .success => s.successes
  | .failure => s.failures

/-- Adds a reconciliation. -/
def Series.record (s : Series) (result : Result) (millis : Nat) : Series :=
  let durations := s.durations.observe (secondsOfMillis millis)
  match result with
  | .success => { s with successes := s.successes + 1, durations }
  | .failure => { s with failures := s.failures + 1, durations }

end Metrics

/-- What is known of all reconciliations, by kind. -/
abbrev Metrics := Table Metrics.Series

namespace Metrics

/-- The number of reconciliations of a kind with an outcome. -/
def count (m : Metrics) (kind : String) (result : Result) : Nat :=
  ((Table.get? kind m).getD {}).count result

/-- Adds a reconciliation. -/
def record (m : Metrics) (kind : String) (result : Result) (millis : Nat) : Metrics :=
  Table.insert kind (((Table.get? kind m).getD {}).record result millis) m

/-- A record raises the count of its kind and outcome by one and no other. -/
theorem count_record (m : Metrics) (kind other : String) (result asked : Result) (millis : Nat) :
    (m.record kind result millis).count other asked =
      m.count other asked + if other = kind ∧ asked = result then 1 else 0 := by
  by_cases h : other = kind
  · subst h
    simp only [count, record, Table.get?_insert_self, Option.getD_some, true_and]
    cases result <;> cases asked <;> simp [Series.record, Series.count]
  · simp [count, record, Table.get?_insert_ne (Ne.symm h), h]

/-- Text inside the quotes of a label. -/
def escape (s : String) : String :=
  String.ofList (s.toList.flatMap fun
    | '\\' => ['\\', '\\']
    | '"' => ['\\', '"']
    | '\n' => ['\\', 'n']
    | c => [c])

/-- Labels in braces. -/
def labels (pairs : List (String × String)) : String :=
  "\x7b" ++ ",".intercalate (pairs.map fun p => p.1 ++ "=\"" ++ escape p.2 ++ "\"") ++ "\x7d"

/-- One sample on a line. -/
def sample (name : String) (pairs : List (String × String)) (value : String) : String :=
  name ++ labels pairs ++ " " ++ value ++ "\n"

/-- A family: its explanation, its type and its samples; nothing without a sample. -/
def family (name help type : String) (samples : List String) : String :=
  if samples.isEmpty then ""
  else
    "# HELP " ++ name ++ " " ++ help ++ "\n# TYPE " ++ name ++ " " ++ type ++ "\n" ++
      String.join samples

/-- The family of durations. -/
def durationName : String := "reconcile_duration_seconds"

/-- The family of counts. -/
def countName : String := "reconciliations_total"

/-- The samples of a histogram: one for each bound, one for all, the sum and the count. -/
def durationSamples (kind : String) (h : Histogram) : List String :=
  let bucket := fun bound (n : Nat) =>
    sample (durationName ++ "_bucket") [("kind", kind), ("le", bound)] (toString n)
  List.zipWith (fun bound n => bucket bound.2 n) bucketBounds h.counts ++
    [bucket "+Inf" h.total,
      sample (durationName ++ "_sum") [("kind", kind)] h.sum.plain,
      sample (durationName ++ "_count") [("kind", kind)] (toString h.total)]

/-- The samples of the counts of a kind that are not zero. -/
def countSamples (kind : String) (s : Series) : List String :=
  [Result.failure, Result.success].filterMap fun o =>
    if s.count o = 0 then none
    else some (sample countName [("kind", kind), ("result", o.label)] (toString (s.count o)))

/-- All metrics in the exposition format. -/
def text (m : Metrics) : String :=
  family durationName "Reconciliation latency in seconds" "histogram"
      (m.flatMap fun e => durationSamples e.1 e.2.durations) ++
    family countName "Total reconciliations of managed resources" "counter"
      (m.flatMap fun e => countSamples e.1 e.2)

/-! ## The endpoint -/

/-- An answer to a request. -/
structure Served where
  status : Nat
  contentType : Option String
  body : String
  deriving DecidableEq, Repr

/-- Serves the metrics to a `GET` of their path, and a sign of life to any request for it. -/
def serve (m : Metrics) (method : Net.Method) (path : String) : Served :=
  if method = .get ∧ path = "/metrics" then ⟨200, some "text/plain; version=0.0.4", m.text⟩
  else if path = "/healthz" then ⟨200, some "text/plain", "OK\n"⟩
  else ⟨404, none, "Not Found\n"⟩

end Metrics

end ResourceOperator
