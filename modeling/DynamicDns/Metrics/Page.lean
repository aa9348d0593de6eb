import DynamicDns.Decimal.Layout
import DynamicDns.Metrics.Registry

/-!
# The metrics page

The text form in which metrics are collected. Families come by name, and only those that have
samples; the samples of a family come by their label values, the labels by name. Beside the metrics
the same server answers two probes.
-/

namespace DynamicDns.Metrics

def familyStem : String := "ddns_firestoned_io_"

def Counter.family : Counter → String
  | .errors => familyStem ++ "errors_total"
  | .notifications => familyStem ++ "notifications_total"
  | .addressUpdates => familyStem ++ "provider_ip_updates_total"
  | .passes => familyStem ++ "reconciliations_total"

def Counter.help : Counter → String
  | .errors => "Total number of errors by resource type and error category"
  | .notifications => "Total number of messages sent through notifiers by kind and status"
  | .addressUpdates => "Total number of IP updates pushed to DNS providers"
  | .passes => "Total number of reconciliations by resource type and status"

def durationFamily : String := familyStem ++ "reconciliation_duration_seconds"

def durationHelp : String := "Duration of reconciliations in seconds by resource type"

def escapeLabel (text : String) : String :=
  String.ofList (text.toList.flatMap fun c =>
    if c = '\\' then ['\\', '\\']
    else if c = '"' then ['\\', '"']
    else if c = '\n' then ['\\', 'n']
    else [c])

/-- One sample: a name, labels in the order in which they are written, and a value. -/
def sample (name : String) (labels : List (String × String)) (value : String) : String :=
  let written := labels.map fun (label, text) => label ++ "=\"" ++ escapeLabel text ++ "\""
  name ++ "\x7b" ++ String.intercalate "," written ++ "\x7d " ++ value

/-- A family with its samples, or nothing if it has none. -/
def familyLines (name help type : String) (samples : List String) : List String :=
  if samples.isEmpty then []
  else ["# HELP " ++ name ++ " " ++ help, "# TYPE " ++ name ++ " " ++ type] ++ samples

/-- Whether a list of texts comes before another, or is the same. -/
def inOrder : List String → List String → Bool
  | [], _ => true
  | _ :: _, [] => false
  | a :: as, b :: bs => a < b || (a == b && inOrder as bs)

def Series.labels (series : Series) : List (String × String) :=
  (series.counter.labels.zip series.values).mergeSort fun a b => a.1 ≤ b.1

def Series.before (a b : Series) : Bool := inOrder (a.labels.map (·.2)) (b.labels.map (·.2))

/-- The samples of a histogram: the buckets, the sum and the count. -/
def Histogram.samples (histogram : Histogram) : List String :=
  let kind := ("resource_type", histogram.kind)
  let buckets := (bounds.map (·.1) ++ ["+Inf"]).zip (histogram.buckets ++ [histogram.count])
  (buckets.map fun (bound, count) =>
    sample (durationFamily ++ "_bucket") [kind, ("le", bound)] (toString count)) ++
  [sample (durationFamily ++ "_sum") [kind] (Decimal.render Decimal.plain histogram.sum.toBits),
    sample (durationFamily ++ "_count") [kind] (toString histogram.count)]

namespace Registry

def samples (registry : Registry) (counter : Counter) : List String :=
  let series := registry.series.filter fun series => series.counter = counter
  (series.mergeSort Series.before).map fun series =>
    sample counter.family series.labels (toString series.count)

def counterLines (registry : Registry) (counter : Counter) : List String :=
  familyLines counter.family counter.help "counter" (registry.samples counter)

def durationLines (registry : Registry) : List String :=
  let histograms := registry.durations.mergeSort fun a b => a.kind ≤ b.kind
  familyLines durationFamily durationHelp "histogram" (histograms.flatMap Histogram.samples)

def lines (registry : Registry) : List String :=
  registry.counterLines .errors ++ registry.counterLines .notifications ++
    registry.counterLines .addressUpdates ++ registry.durationLines ++
    registry.counterLines .passes

def page (registry : Registry) : String :=
  String.join (registry.lines.map (· ++ "\n"))

def body? (registry : Registry) (path : String) : Option String :=
  match path with
  | "/metrics" => some registry.page
  | "/healthz" => some "ok"
  | "/readyz" => some "ok"
  | _ => none

/-- The status and the body that answer a request; the query of a target is not looked at. -/
def respond (registry : Registry) (method target : String) : Nat × String :=
  let path := String.ofList (target.toList.takeWhile fun c => c ≠ '?' && c ≠ '#')
  match registry.body? path, method with
  | none, _ => (404, "")
  | some body, "GET" => (200, body)
  | some _, "HEAD" => (200, "")
  | some _, _ => (405, "")

end Registry

end DynamicDns.Metrics
