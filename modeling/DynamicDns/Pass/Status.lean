import DynamicDns.Condition.Ledger
import DynamicDns.Json.MergePatch
import DynamicDns.Pass.Call

/-!
# Keeping a status

A pass changes the status that it holds in memory, and sends the store the difference. Nothing is
sent when nothing changed, so a pass over a resource whose world stood still writes nothing. When
the store refuses a patch, the memory is ahead of it.
-/

namespace DynamicDns.Pass

variable {δ κ σ τ : Type}

/-- A change of a status, which says whether there was one. -/
abbrev Mutation (τ : Type) := τ → τ × Bool

/-- The patch between two statuses. A resource without a status is patched with a whole one. -/
def statusPatch [Status τ] (before : Option τ) (after : τ) : Json :=
  let old := (before.map Codec.encode).getD .null
  Json.object [("status", Json.diff old (Codec.encode after))]

/-- Changes the status in memory and in the store, and says whether a patch was sent. -/
def patchStatus [Status τ] (mutate : Mutation τ) : Pass δ κ (Resource σ τ) Bool := do
  let resource ← get
  let (status, changed) := mutate resource.statusOrInitial
  set { resource with status := some status }
  if changed then
    let patch := statusPatch resource.status status
    match ← ask (.patchStatus (Status.kind τ) resource.key patch) with
    | .ok () => return true
    | .error failure => throw failure
  else return false

def onConditions [Status τ] (change : List Condition → List Condition × Bool) : Mutation τ :=
  fun status =>
    let (conditions, changed) := change (Status.conditions status)
    (Status.withConditions status conditions, changed)

def andAlso (first second : Mutation τ) : Mutation τ := fun status =>
  let (between, firstChanged) := first status
  let (after, secondChanged) := second between
  (after, firstChanged || secondChanged)

/-- The changes of a condition, for the generation that the pass is about. -/
def stamped [Status τ] (type : String) (changes : List Condition.Change) :
    Pass δ κ (Resource σ τ) (Mutation τ) := do
  let now ← ask .now
  let generation := (← get).generation
  return onConditions (Condition.assign now type (changes ++ [.observed generation]))

def recordCondition [Status τ] (type : String) (changes : List Condition.Change) :
    Pass δ κ (Resource σ τ) Unit := do
  let _ ← patchStatus (← stamped type changes)

def holds (reason message : String) : List Condition.Change :=
  [.hold, .reasonAndMessage reason message]

def fails (reason message : String) : List Condition.Change :=
  [.fail, .reasonAndMessage reason message]

end DynamicDns.Pass
