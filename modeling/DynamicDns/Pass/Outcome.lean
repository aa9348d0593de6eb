import DynamicDns.Pass.Call

/-!
# The outcome of a pass

A pass ends with what is to happen next, or with a failure. The controllers count every pass and
repeat a failed one after a while.
-/

namespace DynamicDns.Pass

variable {δ κ : Type}

/-- When the next pass over a resource is due: once the resource changes, or also after some
seconds. -/
inductive Next where
  | awaitChange
  | requeue (seconds : Nat)
  deriving DecidableEq, Repr

abbrev Outcome := Except Failure Next

/-- The seconds after which a failed pass is repeated. -/
def retryAfterFailure : Nat := 30

def next : Outcome → Next
  | .ok next => next
  | .error _ => .requeue retryAfterFailure

def counted (kind : Kind) (pass : Calling δ κ Outcome) : Calling δ κ Outcome := do
  let start ← Program.ask (Call.elapsed)
  let outcome ← pass
  let stop ← Program.ask (Call.elapsed)
  Program.ask (Call.record (.passed kind.name outcome.isOk (stop - start)))
  if !outcome.isOk then
    Program.ask (Call.record (.failed kind.name Metrics.passFailure))
  return outcome

end DynamicDns.Pass
