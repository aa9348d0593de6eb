import DynamicDns.Pass.Dependencies
import DynamicDns.Pass.Outcome

/-!
# The provider pass

The pass discovers the public address, reads the address that the account serves, and pushes the
public address if the two differ. Each thing it learns is recorded before the next step, and the
generation that it was about is recorded last, when all is done.
-/

namespace DynamicDns.Pass

variable {δ κ : Type}

/-- Counts a failure of a provider pass, and ends the pass with it. -/
def proceedCounting {ε α : Type} (category : String) (cause : ε → Cause) (doing : String)
    (reply : Except ε α) : Pass δ κ Provider α := do
  if !reply.isOk then ask (.record (.failed Kind.provider.name category))
  proceed cause doing reply

def putPublicIp (ip : String) : Mutation ProviderStatus := fun status =>
  ({ status with publicIp := ip }, status.publicIp ≠ ip)

def putProviderIp (ip : String) : Mutation ProviderStatus := fun status =>
  ({ status with providerIp := ip }, status.providerIp ≠ ip)

/-- Records the generation that a provider pass was about. -/
def putProviderGeneration (generation : Option Int64) : Mutation ProviderStatus := fun status =>
  ({ status with observedGeneration := generation }, status.observedGeneration ≠ generation)

/-- The pass over a provider that was found under a key. -/
def overProvider (key : ObjectKey) : Pass δ κ Provider Next := do
  let publicIp ← proceedCounting Metrics.discoveryFailure .discovery "failed to discover public IP"
    (← ask (.publicIp (← get).spec.customIpProvider))
  let _ ← patchStatus (putPublicIp publicIp)
  let secret ← fetchSecret
  let configMap ← fetchConfigMap
  let client ← recordCreation .client ClientError.text
    (← ask (.createClient (← get).spec.name secret configMap))
  let providerIp ← proceedCounting Metrics.dnsFailure .client "failed to read IP from DNS provider"
    (← ask (.getIp client))
  let _ ← patchStatus (putProviderIp providerIp)
  if publicIp ≠ providerIp then
    proceedCounting Metrics.dnsFailure .client "failed to update IP at DNS provider"
      (← ask (.setIp client publicIp))
    ask (.record (.addressPushed key))
    let _ ← patchStatus (putProviderIp publicIp)
  let _ ← patchStatus (putProviderGeneration (some (← get).generation))
  return .requeue (← get).spec.retrySeconds

def provider (key : ObjectKey) : Calling δ κ Outcome := do
  match ← Program.ask (Call.getProvider key) with
  | .error failure => return .error failure
  | .ok none => return .ok .awaitChange
  | .ok (some provider) => return (← ((overProvider key).run.run provider)).1

end DynamicDns.Pass
