import DynamicDns.Condition.Wording
import DynamicDns.Pass.Status

/-!
# What a resource depends on

Both kinds of resource need a secret, a config map and a client that is built from the two. Each
step records its own condition, whether it succeeds or fails, before the pass goes on or ends.
-/

namespace DynamicDns.Pass

variable {δ κ σ τ : Type} [Dependent σ] [Status τ]

/-- Reads one of the objects that the resource names, and records whether it was there. -/
def fetch {α : Type} (kind type reason name : String)
    (read : (key : ObjectKey) → Pass δ κ (Resource σ τ) (Except LookupError α)) :
    Pass δ κ (Resource σ τ) α := do
  let key : ObjectKey := ⟨(← get).metadata.space, name⟩
  match ← read key with
  | .ok value =>
    recordCondition type (holds reason (Wording.found kind name))
    return value
  | .error e =>
    recordCondition type (fails reason e.text)
    proceed .lookup ("failed to fetch " ++ kind ++ " " ++ key.path) (.error e)

def fetchSecret : Pass δ κ (Resource σ τ) Secret := do
  fetch "Secret" Condition.typeSecret Wording.secretFound (Dependent.secretName (← get).spec)
    fun key => ask (.getSecret key)

def fetchConfigMap : Pass δ κ (Resource σ τ) ConfigMap := do
  fetch "ConfigMap" Condition.typeConfigMap Wording.configMapFound
    (Dependent.configMapName (← get).spec) fun key => ask (.getConfigMap key)

omit [Dependent σ] in
/-- Records whether a client could be built. A condition that already holds keeps its reason and
message, as a later step wrote them. -/
def recordCreation {ε α : Type} (cause : ε → Cause) (text : ε → String) (created : Except ε α) :
    Pass δ κ (Resource σ τ) α := do
  match created with
  | .ok client =>
    let conditions := (← get).status.elim [] Status.conditions
    let already := (Condition.find? conditions Condition.typeClient).any fun condition =>
      condition.status == Condition.statusTrue
    recordCondition Condition.typeClient (
      if already then [.hold]
      else holds Wording.clientCreated Wording.clientCreatedMessage)
    return client
  | .error e =>
    recordCondition Condition.typeClient (
      fails Wording.clientCreated (Wording.creationFailed (text e)))
    proceed cause "could not create client" (.error e)

end DynamicDns.Pass
