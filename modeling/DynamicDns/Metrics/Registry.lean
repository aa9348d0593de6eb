import DynamicDns.Resource.Reference

/-!
# Metrics

What happens in a pass is counted. A counter has labels, and each combination of label values is a
series of its own; two combinations are one series when their values, run together, are the same
text, and the combination seen first names it. Every pass also leaves its duration in a histogram
for the kind of resource, whose buckets hold the durations up to a bound.

`Registry.record` is the only change there is. `Registry.count` is the view of a counter.
-/

namespace DynamicDns.Metrics

/-- Something that is counted. Durations are in nanoseconds. -/
inductive Event where
  | passed (kind : String) (success : Bool) (duration : Nat)
  | failed (kind category : String)
  | addressPushed (provider : ObjectKey)
  | message (kind : String) (sent : Bool)
  deriving DecidableEq

/-! ### Categories of errors and kinds of messages -/

def discoveryFailure : String := "ip_discovery"

def dnsFailure : String := "dns_provider"

def passFailure : String := "reconcile_error"

def greetingMessage : String := "greeting"

def changeMessage : String := "change"

/-! ### Counters -/

inductive Counter where
  | errors
  | notifications
  | addressUpdates
  | passes
  deriving DecidableEq, Repr

/-- The labels of a counter, in the order in which its series are given their values. -/
def Counter.labels : Counter → List String
  | .errors => ["resource_type", "error_type"]
  | .notifications => ["kind", "status"]
  | .addressUpdates => ["provider"]
  | .passes => ["resource_type", "status"]

def Event.series : Event → Counter × List String
  | .passed kind success _ => (.passes, [kind, if success then "success" else "error"])
  | .failed kind category => (.errors, [kind, category])
  | .addressPushed provider => (.addressUpdates, [provider.path])
  | .message kind sent => (.notifications, [kind, if sent then "sent" else "failed"])

/-- The count of one combination of label values. -/
structure Series where
  counter : Counter
  values : List String
  count : Nat
  deriving DecidableEq

/-- Whether a series belongs to a combination of label values. -/
def Series.isFor (series : Series) (counter : Counter) (values : List String) : Bool :=
  series.counter == counter && String.join series.values == String.join values

def countUp (counter : Counter) (values : List String) : List Series → List Series
  | [] => [⟨counter, values, 1⟩]
  | series :: rest =>
    if series.isFor counter values then { series with count := series.count + 1 } :: rest
    else series :: countUp counter values rest

/-! ### Durations -/

/-- The bounds of the buckets: how they are written, and in nanoseconds. -/
def bounds : List (String × Nat) :=
  [("0.01", 10000000), ("0.1", 100000000), ("0.5", 500000000), ("1", 1000000000),
    ("2", 2000000000), ("5", 5000000000), ("10", 10000000000), ("30", 30000000000),
    ("60", 60000000000)]

/-- The durations of the passes over one kind of resource. A bucket counts the durations up to its
bound, and the sum is in seconds. -/
structure Histogram where
  kind : String
  buckets : List Nat
  count : Nat
  sum : Float

namespace Histogram

def empty (kind : String) : Histogram := ⟨kind, bounds.map fun _ => 0, 0, 0.0⟩

def seconds (duration : Nat) : Float :=
  Float.ofNat (duration / 1000000000) + Float.ofNat (duration % 1000000000) / 1e9

def observe (histogram : Histogram) (duration : Nat) : Histogram :=
  { histogram with
    buckets := (histogram.buckets.zip bounds).map fun (count, bound) =>
      if duration ≤ bound.2 then count + 1 else count
    count := histogram.count + 1
    sum := histogram.sum + seconds duration }

end Histogram

/-- Takes in one duration of a pass over a kind of resource. -/
def observe (kind : String) (duration : Nat) : List Histogram → List Histogram
  | [] => [(Histogram.empty kind).observe duration]
  | histogram :: rest =>
    if histogram.kind = kind then histogram.observe duration :: rest
    else histogram :: observe kind duration rest

/-! ### The registry -/

/-- All that was counted, in the order in which each series appeared. -/
structure Registry where
  series : List Series
  durations : List Histogram

namespace Registry

def empty : Registry := ⟨[], []⟩

def record (registry : Registry) (event : Event) : Registry :=
  let series := countUp event.series.1 event.series.2 registry.series
  match event with
  | .passed kind _ duration => ⟨series, observe kind duration registry.durations⟩
  | _ => { registry with series }

def count (registry : Registry) (counter : Counter) (values : List String) : Nat :=
  match registry.series.find? fun series => series.isFor counter values with
  | some series => series.count
  | none => 0

/-- How many passes over a kind of resource have left their duration. -/
def durationCount (registry : Registry) (kind : String) : Nat :=
  match registry.durations.find? fun histogram => histogram.kind == kind with
  | some histogram => histogram.count
  | none => 0

end Registry

end DynamicDns.Metrics
