import DynamicDns.Proofs.Pass.Mutation
import DynamicDns.Proofs.Program
import DynamicDns.Proofs.Run.Scene
import DynamicDns.Proofs.World.Stored

/-!
# The steps of a pass

Seen from its calls, a pass that changes its status and finds nothing to send does nothing at all. A
plan is a program over steps instead, in which every change of the status is to be seen, sent or not.
A careful plan changes the status by mutations that say that nothing changed only where nothing did,
makes no call that meddles with statuses, and does nothing once a status could not be written. The
plans of the two passes are written out part by part, and each part, acted out, makes the part of the
pass that it stands for (`Plan.makes_overProvider`, `Plan.makes_overNotifier`).
-/

namespace DynamicDns

namespace Program

variable {ι : Type} {ρ : ι → Type} {m : Type → Type} [Monad m] {α β : Type}

def interpret (act : (request : ι) → m (ρ request)) : Program ι ρ α → m α
  | .done value => return value
  | .call request next => do (next (← act request)).interpret act

theorem interpret_bind [LawfulMonad m] (act : (request : ι) → m (ρ request))
    (program : Program ι ρ α) (f : α → Program ι ρ β) :
    (program.bind f).interpret act =
      program.interpret act >>= fun value => (f value).interpret act := by
  induction program with
  | done value => simp [bind, interpret]
  | call request next ih => simp [bind, interpret, ih]

end Program

variable {δ κ σ τ α β : Type}

def Call.WritesStatus : Call δ κ → Prop
  | .patchStatus _ _ _ => True
  | _ => False

/-- A call that writes no status and leaves the resources of a kind as they are. -/
structure Call.Spares (τ : Type) [Codec σ] [Status τ] [Shelved σ τ] (call : Call δ κ) : Prop where
  writes : ¬call.WritesStatus
  keeps : ∀ (scope : Option String) refusal outside (cluster : Cluster) key,
    ((cluster.answer scope refusal outside call).2.stored? key : Option (Resource σ τ)) =
      cluster.stored? key

def Call.Patchless : Call δ κ → Prop
  | .patchStatus _ _ _ | .patchProvider _ _ => False
  | _ => True

theorem Call.Harmless.patchless {call : Call δ κ} (harmless : call.Harmless) : call.Patchless := by
  cases call with
  | now | record => trivial
  | _ => cases harmless

theorem Call.spares [Codec σ] [Status τ] [Shelved σ τ] {call : Call δ κ}
    (patchless : call.Patchless) : call.Spares τ := by
  cases call with
  | patchStatus | patchProvider => cases patchless
  | _ => exact ⟨id, fun _ _ _ _ _ => rfl⟩

theorem Call.spares_patchProvider (key : ObjectKey) (patch : Json) :
    (Call.patchProvider key patch : Call δ κ).Spares NotifierStatus := by
  refine ⟨id, fun scope refusal outside cluster other => ?_⟩
  change (cluster.patching refusal .provider key patch).2.stored? other = _
  rcases hanswer : cluster.patching refusal .provider key patch with ⟨reply, cluster'⟩
  obtain ⟨failure, -, rfl⟩ | ⟨-, hpatch⟩ := Cluster.patching_cases hanswer
  · rfl
  · obtain ⟨provider, provider', -, -, rfl⟩ := Cluster.patch_provider_eq_ok hpatch
    simp [Cluster.stored?, Shelved.shelf]

namespace Pass

/-- A step of a pass: it looks at what it holds in memory, makes a call, or changes the status. -/
inductive Step (δ κ τ : Type) where
  | look
  | ask (call : Call δ κ)
  | change (mutate : Mutation τ)

namespace Step

abbrev Reply (σ : Type) : Step δ κ τ → Type
  | .look => Resource σ τ
  | .ask call => call.Reply
  | .change _ => Except Failure Bool

def act [Status τ] :
    (step : Step δ κ τ) → StateT (Resource σ τ) (Calling δ κ) (step.Reply σ)
  | .look => get
  | .ask call => StateT.lift (Program.ask call)
  | .change mutate => (patchStatus mutate).run

def refused : (step : Step δ κ τ) → step.Reply σ → Bool
  | .change _, .error _ => true
  | _, _ => false

end Step

abbrev Plan (δ κ σ τ : Type) := ExceptT Failure (Program (Step δ κ τ) (Step.Reply σ))

namespace Plan

def pass [Status τ] (plan : Plan δ κ σ τ α) : Pass δ κ (Resource σ τ) α :=
  ExceptT.mk (plan.run.interpret Step.act)

variable [Codec σ] [Status τ] [Shelved σ τ]

/-- The rules of careful steps. The state says whether a status could not be written. -/
def rules (δ κ σ τ : Type) [Codec σ] [Status τ] [Shelved σ τ] :
    Program.Rules (@Step.Reply δ κ τ σ) Bool where
  allows refused step :=
    refused = false ∧
      match step with
      | .look => True
      | .ask call => call.Spares τ
      | .change mutate => mutate.Exact
  answers _ step reply after := after = step.refused reply
  fails _ := True

def Careful (plan : Plan δ κ σ τ α) : Prop :=
  plan.run.Obeys (rules δ κ σ τ) (fun result refused => result.isOk = true → refused = false) false

/-- Acted out, a plan is a pass, and it is careful. -/
structure Makes (plan : Plan δ κ σ τ α) (pass : Pass δ κ (Resource σ τ) α) : Prop where
  acted : plan.pass = pass
  careful : plan.Careful

theorem makes_pure (value : α) :
    (pure value : Plan δ κ σ τ α).Makes (pure value) :=
  ⟨rfl, fun _ => rfl⟩

theorem makes_throw (failure : Failure) :
    (throw failure : Plan δ κ σ τ α).Makes (throw failure) := by
  refine ⟨rfl, fun h => ?_⟩
  cases h

theorem Makes.bind {plan : Plan δ κ σ τ α} {pass : Pass δ κ (Resource σ τ) α}
    {plans : α → Plan δ κ σ τ β} {passes : α → Pass δ κ (Resource σ τ) β}
    (first : plan.Makes pass) (second : ∀ value, (plans value).Makes (passes value)) :
    (plan >>= plans).Makes (pass >>= passes) := by
  obtain ⟨rfl, careful⟩ := first
  constructor
  · refine (Program.interpret_bind Step.act _ _).trans ?_
    refine congrArg (plan.run.interpret Step.act >>= ·) (funext fun result => ?_)
    cases result with
    | ok value => exact (second value).acted
    | error failure => rfl
  · refine (Program.obeys_bind _ _ _ _ _).2 (Program.Obeys.mono careful ?_)
    intro result refused h
    cases result with
    | ok value =>
      rw [h rfl]
      exact (second value).careful
    | error failure => exact fun h => by cases h

/-! ### Steps -/

def look : Plan δ κ σ τ (Resource σ τ) := ExceptT.lift (Program.ask Step.look)

def ask (call : Call δ κ) : Plan δ κ σ τ call.Reply := ExceptT.lift (Program.ask (Step.ask call))

def change (mutate : Mutation τ) : Plan δ κ σ τ Bool := ExceptT.mk (Program.ask (Step.change mutate))

theorem makes_look : (look : Plan δ κ σ τ _).Makes get := by
  refine ⟨rfl, ⟨rfl, trivial⟩, ?_⟩
  rintro reply _ rfl -
  rfl

theorem makes_ask {call : Call δ κ} (spares : call.Spares τ) :
    (ask call : Plan δ κ σ τ call.Reply).Makes (Pass.ask call) := by
  refine ⟨rfl, ⟨rfl, spares⟩, ?_⟩
  rintro reply _ rfl -
  rfl

theorem makes_call (call : Call δ κ) (patchless : call.Patchless) :
    (ask call : Plan δ κ σ τ call.Reply).Makes (Pass.ask call) :=
  makes_ask (Call.spares patchless)

theorem makes_change {mutate : Mutation τ} (exact : mutate.Exact) :
    (change mutate : Plan δ κ σ τ Bool).Makes (patchStatus mutate) := by
  refine ⟨bind_pure (patchStatus mutate).run, ⟨rfl, exact⟩, ?_⟩
  rintro reply _ rfl h
  cases reply with
  | ok sent => rfl
  | error failure => cases h

/-! ### What both kinds of pass are made of -/

section

variable {ε : Type}

def proceed (cause : ε → Cause) (doing : String) : Except ε α → Plan δ κ σ τ α
  | .ok value => return value
  | .error e => throw ((Failure.bare (cause e)).within doing)

def stamped (type : String) (changes : List Condition.Change) : Plan δ κ σ τ (Mutation τ) := do
  let now ← ask .now
  let generation := (← look).generation
  return onConditions (Condition.assign now type (changes ++ [.observed generation]))

def recordCondition (type : String) (changes : List Condition.Change) : Plan δ κ σ τ Unit := do
  let _ ← change (← stamped type changes)

def fetch (kind type reason name : String)
    (read : (key : ObjectKey) → Plan δ κ σ τ (Except LookupError α)) : Plan δ κ σ τ α := do
  let key : ObjectKey := ⟨(← look).metadata.space, name⟩
  match ← read key with
  | .ok value =>
    recordCondition type (holds reason (Wording.found kind name))
    return value
  | .error e =>
    recordCondition type (fails reason e.text)
    proceed .lookup ("failed to fetch " ++ kind ++ " " ++ key.path) (.error e)

def fetchSecret [Dependent σ] : Plan δ κ σ τ Secret := do
  fetch "Secret" Condition.typeSecret Wording.secretFound (Dependent.secretName (← look).spec)
    fun key => ask (.getSecret key)

def fetchConfigMap [Dependent σ] : Plan δ κ σ τ ConfigMap := do
  fetch "ConfigMap" Condition.typeConfigMap Wording.configMapFound
    (Dependent.configMapName (← look).spec) fun key => ask (.getConfigMap key)

def recordCreation (cause : ε → Cause) (text : ε → String) (created : Except ε α) :
    Plan δ κ σ τ α := do
  match created with
  | .ok client =>
    let conditions := (← look).status.elim [] Status.conditions
    let already := (Condition.find? conditions Condition.typeClient).any fun condition =>
      condition.status == Condition.statusTrue
    recordCondition Condition.typeClient (
      if already then [.hold]
      else holds Wording.clientCreated Wording.clientCreatedMessage)
    return client
  | .error e =>
    recordCondition Condition.typeClient (
      fails Wording.clientCreated (Wording.creationFailed (text e)))
    proceed cause "could not create client" (.error e)

theorem makes_proceed {cause : ε → Cause} {doing : String} (result : Except ε α) :
    (proceed cause doing result : Plan δ κ σ τ α).Makes (Pass.proceed cause doing result) := by
  cases result with
  | ok value => exact makes_pure value
  | error e => exact makes_throw _

variable [LawfulStatus τ]

theorem makes_stamped_bind {type : String} {changes : List Condition.Change}
    {plans : Mutation τ → Plan δ κ σ τ α} {passes : Mutation τ → Pass δ κ (Resource σ τ) α}
    (h : ∀ mutate : Mutation τ, mutate.Exact → (plans mutate).Makes (passes mutate)) :
    (stamped type changes >>= plans).Makes (Pass.stamped type changes >>= passes) := by
  rw [stamped_bind, stamped, bind_assoc]
  refine (makes_call .now trivial).bind fun now => ?_
  rw [bind_assoc]
  refine makes_look.bind fun resource => ?_
  rw [pure_bind]
  exact h _ (exact_assign _ _ _)

theorem makes_recordCondition (type : String) (changes : List Condition.Change) :
    (recordCondition type changes : Plan δ κ σ τ Unit).Makes (Pass.recordCondition type changes) :=
  makes_stamped_bind fun _ exact => (makes_change exact).bind fun _ => makes_pure ()

theorem makes_fetch {kind type reason name : String}
    {plan : (key : ObjectKey) → Plan δ κ σ τ (Except LookupError α)}
    {read : (key : ObjectKey) → Pass δ κ (Resource σ τ) (Except LookupError α)}
    (makes : ∀ key, (plan key).Makes (read key)) :
    (fetch kind type reason name plan).Makes (Pass.fetch kind type reason name read) := by
  refine makes_look.bind fun resource => (makes _).bind fun reply => ?_
  cases reply with
  | ok value =>
    exact (makes_recordCondition type _).bind fun _ => makes_pure value
  | error e =>
    exact (makes_recordCondition type _).bind fun _ => makes_proceed _

theorem makes_recordCreation {cause : ε → Cause} {text : ε → String} (created : Except ε α) :
    (recordCreation cause text created : Plan δ κ σ τ α).Makes
      (Pass.recordCreation cause text created) := by
  cases created with
  | ok client =>
    refine makes_look.bind fun resource => ?_
    exact (makes_recordCondition _ _).bind fun _ => makes_pure client
  | error e =>
    exact (makes_recordCondition _ _).bind fun _ => makes_proceed _

variable [Dependent σ]

theorem makes_fetchSecret : (fetchSecret : Plan δ κ σ τ Secret).Makes Pass.fetchSecret := by
  exact makes_look.bind fun _ => makes_fetch fun key => makes_call (.getSecret key) trivial

theorem makes_fetchConfigMap :
    (fetchConfigMap : Plan δ κ σ τ ConfigMap).Makes Pass.fetchConfigMap := by
  exact makes_look.bind fun _ => makes_fetch fun key => makes_call (.getConfigMap key) trivial

end

/-! ### The provider pass -/

def proceedCounting {ε : Type} (category : String) (cause : ε → Cause) (doing : String)
    (reply : Except ε α) : Plan δ κ ProviderSpec ProviderStatus α := do
  if !reply.isOk then ask (.record (.failed Kind.provider.name category))
  proceed cause doing reply

def overProvider (key : ObjectKey) : Plan δ κ ProviderSpec ProviderStatus Next := do
  let publicIp ← proceedCounting Metrics.discoveryFailure .discovery "failed to discover public IP"
    (← ask (.publicIp (← look).spec.customIpProvider))
  let _ ← change (putPublicIp publicIp)
  let secret ← fetchSecret
  let configMap ← fetchConfigMap
  let client ← recordCreation .client ClientError.text
    (← ask (.createClient (← look).spec.name secret configMap))
  let providerIp ← proceedCounting Metrics.dnsFailure .client "failed to read IP from DNS provider"
    (← ask (.getIp client))
  let _ ← change (putProviderIp providerIp)
  if publicIp ≠ providerIp then
    proceedCounting Metrics.dnsFailure .client "failed to update IP at DNS provider"
      (← ask (.setIp client publicIp))
    ask (.record (.addressPushed key))
    let _ ← change (putProviderIp publicIp)
  let _ ← change (putProviderGeneration (some (← look).generation))
  return .requeue (← look).spec.retrySeconds

theorem makes_proceedCounting {ε : Type} {category doing : String} {cause : ε → Cause}
    (reply : Except ε α) :
    (proceedCounting category cause doing reply : Plan δ κ _ _ α).Makes
      (Pass.proceedCounting category cause doing reply) := by
  cases reply with
  | ok value => exact makes_pure value
  | error e =>
    exact (makes_call (.record _) trivial).bind fun _ => makes_throw _

theorem makes_overProvider (key : ObjectKey) :
    (overProvider key : Plan δ κ _ _ Next).Makes (Pass.overProvider key) := by
  refine makes_look.bind fun provider => ?_
  refine (makes_call (.publicIp _) trivial).bind fun discovered => ?_
  refine (makes_proceedCounting discovered).bind fun publicIp => ?_
  refine (makes_change (exact_putPublicIp publicIp)).bind fun _ => ?_
  refine makes_fetchSecret.bind fun secret => makes_fetchConfigMap.bind fun configMap => ?_
  refine makes_look.bind fun provider => ?_
  refine (makes_call (.createClient _ _ _) trivial).bind fun created => ?_
  refine (makes_recordCreation created).bind fun client => ?_
  refine (makes_call (.getIp _) trivial).bind fun served => ?_
  refine (makes_proceedCounting served).bind fun providerIp => ?_
  refine (makes_change (exact_putProviderIp providerIp)).bind fun _ => ?_
  have finish : (do
      let _ ← change (putProviderGeneration (some (← look).generation))
      return .requeue (← look).spec.retrySeconds : Plan δ κ ProviderSpec ProviderStatus Next).Makes
      (do
        let _ ← patchStatus (putProviderGeneration (some (← get).generation))
        return .requeue (← get).spec.retrySeconds : Pass δ κ Provider Next) :=
    makes_look.bind fun _ => (makes_change (exact_putProviderGeneration _)).bind fun _ =>
      makes_look.bind fun _ => makes_pure _
  by_cases hdiffers : publicIp ≠ providerIp
  · rw [if_pos hdiffers, if_pos hdiffers]
    refine (makes_call (.setIp _ _) trivial).bind fun pushed => ?_
    refine (makes_proceedCounting pushed).bind fun _ => ?_
    refine (makes_call (.record _) trivial).bind fun _ => ?_
    exact (makes_change (exact_putProviderIp publicIp)).bind fun _ => finish
  · rw [if_neg hdiffers, if_neg hdiffers]
    exact finish

/-! ### The notifier pass -/

def ensureDeclared : Plan δ κ NotifierSpec NotifierStatus Unit := do
  let now ← ask .now
  let _ ← change (onConditions (Condition.ensureTypes now Condition.declaredTypes))

def greet (channel : κ) : Plan δ κ NotifierSpec NotifierStatus Unit := do
  let reply ← ask (.greet channel)
  ask (.record (.message Metrics.greetingMessage reply.isOk))
  match reply with
  | .ok () =>
    let established ← stamped Condition.typeClient
      (holds Wording.clientCommunication Wording.communicationsEstablished)
    let _ ← change (andAlso established (putReady true))
  | .error e =>
    recordCondition Condition.typeClient
      (fails Wording.clientCommunication (Wording.greetingsFailed e.text))
    proceed .channel "unable to send greetings" (.error e)

def announce (channel : κ) (marker : Marker) (provider : Provider) (ip : String) :
    Plan δ κ NotifierSpec NotifierStatus Unit := do
  let message := Wording.announcement ip provider.statusOrInitial.publicIp provider.key.name
  let reply ← ask (.notify channel message)
  ask (.record (.message Metrics.changeMessage reply.isOk))
  match reply with
  | .ok () =>
    recordCondition Condition.typeClient
      (holds Wording.clientCommunication Wording.notificationSent)
    match ← ask (.patchProvider provider.key (marker.patch ip)) with
    | .ok () => return ()
    | .error failure =>
      throw (failure.within
        ("failed to record notification marker on Provider " ++ provider.key.path))
  | .error e =>
    let failed ← stamped Condition.typeClient
      (fails Wording.clientCommunication (Wording.notificationFailed e.text))
    let _ ← change (andAlso (putReady false) failed)
    proceed .channel "unable to send notification" (.error e)

def announceAll (channel : κ) (marker : Marker) :
    List Provider → Plan δ κ NotifierSpec NotifierStatus Unit
  | [] => return ()
  | provider :: rest => do
    match pending? marker provider with
    | some ip => announce channel marker provider ip
    | none => pure ()
    announceAll channel marker rest

def overNotifier (key : ObjectKey) : Plan δ κ NotifierSpec NotifierStatus Next := do
  ensureDeclared
  let secret ← fetchSecret
  let configMap ← fetchConfigMap
  let channel ← recordCreation .channel ChannelError.text
    (← ask (.createChannel (← look).spec.name secret configMap))
  if !(← look).statusOrInitial.isReady then
    greet channel
    return .requeue 0
  let marker := Marker.ofNotifier (← look)
  match ← ask .listProviders with
  | .error failure => throw failure
  | .ok providers => announceAll channel marker (providers.filter fun p => p.refersTo key)
  let _ ← change (putNotifierGeneration (some (← look).generation))
  return .awaitChange

theorem makes_ensureDeclared :
    (ensureDeclared : Plan δ κ _ _ Unit).Makes Pass.ensureDeclared := by
  refine (makes_call .now trivial).bind fun now => ?_
  exact (makes_change (exact_ensureTypes _ _)).bind fun _ => makes_pure ()

theorem makes_greet (channel : κ) :
    (greet channel : Plan δ κ _ _ Unit).Makes (Pass.greet channel) := by
  refine (makes_call (.greet channel) trivial).bind fun reply => ?_
  refine (makes_call (.record _) trivial).bind fun _ => ?_
  cases reply with
  | ok value =>
    refine makes_stamped_bind fun established exact => ?_
    exact (makes_change (exact.andAlso (exact_putReady true))).bind fun _ => makes_pure ()
  | error e =>
    exact (makes_recordCondition _ _).bind fun _ => makes_proceed _

theorem makes_announce (channel : κ) (marker : Marker) (provider : Provider) (ip : String) :
    (announce channel marker provider ip : Plan δ κ _ _ Unit).Makes
      (Pass.announce channel marker provider ip) := by
  refine (makes_call (.notify channel _) trivial).bind fun reply => ?_
  refine (makes_call (.record _) trivial).bind fun _ => ?_
  cases reply with
  | ok value =>
    refine (makes_recordCondition _ _).bind fun _ => ?_
    refine (makes_ask (Call.spares_patchProvider _ _)).bind fun reply => ?_
    cases reply with
    | ok value => exact makes_pure value
    | error failure => exact makes_throw _
  | error e =>
    refine makes_stamped_bind fun failed exact => ?_
    exact (makes_change ((exact_putReady false).andAlso exact)).bind fun _ => makes_proceed _

theorem makes_announceAll (channel : κ) (marker : Marker) (providers : List Provider) :
    (announceAll channel marker providers : Plan δ κ _ _ Unit).Makes
      (Pass.announceAll channel marker providers) := by
  induction providers with
  | nil => exact makes_pure ()
  | cons provider rest ih =>
    rw [announceAll, Pass.announceAll]
    cases pending? marker provider with
    | none => exact ih
    | some ip => exact (makes_announce channel marker provider ip).bind fun _ => ih

theorem makes_overNotifier (key : ObjectKey) :
    (overNotifier key : Plan δ κ _ _ Next).Makes (Pass.overNotifier key) := by
  refine makes_ensureDeclared.bind fun _ => ?_
  refine makes_fetchSecret.bind fun secret => makes_fetchConfigMap.bind fun configMap => ?_
  refine makes_look.bind fun notifier => ?_
  refine (makes_call (.createChannel _ _ _) trivial).bind fun created => ?_
  refine (makes_recordCreation created).bind fun channel => makes_look.bind fun notifier => ?_
  by_cases hready : (!notifier.statusOrInitial.isReady) = true
  · rw [if_pos hready, if_pos hready]
    exact (makes_greet channel).bind fun _ => makes_pure _
  · rw [if_neg hready, if_neg hready]
    refine makes_look.bind fun notifier => (makes_call .listProviders trivial).bind fun listed => ?_
    cases listed with
    | error failure => exact makes_throw failure
    | ok providers =>
      refine (makes_announceAll channel _ _).bind fun _ => makes_look.bind fun notifier => ?_
      exact (makes_change (exact_putNotifierGeneration _)).bind fun _ => makes_pure _

end Plan

end Pass

end DynamicDns
