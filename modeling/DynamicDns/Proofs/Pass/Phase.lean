import DynamicDns.Pass.Provider
import DynamicDns.Proofs.Pass.Conduct

/-!
# The phases of a provider pass

A provider pass learns the public address, builds a client from what it finds, reads the address that
the account serves, and pushes the public address where the two differ. The rules say what a pass may do in each
phase; it writes statuses of its own provider, and neither greets nor announces anything.
`provider_obeys` says that the pass keeps to these rules, whatever it is answered, and that one
which succeeds has read the public address from the account or pushed it there.
-/

namespace DynamicDns.Pass

variable {δ κ : Type}

/-- How far a pass over a provider has come, with the public address that it discovered. -/
inductive Phase (δ : Type) where
  | opening
  | absent
  | preparing (provider : Provider)
  | discovered (provider : Provider) (ip : String)
  | unlocked (provider : Provider) (ip : String) (secret : Secret)
  | equipped (provider : Provider) (ip : String) (secret : Secret) (configMap : ConfigMap)
  | connected (provider : Provider) (ip : String) (client : δ)
  | compared (provider : Provider) (ip : String) (client : δ) (served : String)
  | pushed (provider : Provider) (ip : String) (client : δ)
  | finished

namespace Phase

/-! ### From one phase to the next -/

def afterReading : Phase δ → Except Failure (Option Provider) → Phase δ
  | .opening, .ok (some provider) => .preparing provider
  | .opening, .ok none => .absent
  | .opening, .error _ => .finished
  | phase, _ => phase

def afterDiscovery : Phase δ → Except DiscoveryError String → Phase δ
  | .preparing provider, .ok ip => .discovered provider ip
  | .preparing _, .error _ => .finished
  | phase, _ => phase

def afterUnlocking : Phase δ → Except LookupError Secret → Phase δ
  | .discovered provider ip, .ok secret => .unlocked provider ip secret
  | phase, _ => phase

def afterEquipping : Phase δ → Except LookupError ConfigMap → Phase δ
  | .unlocked provider ip secret, .ok configMap => .equipped provider ip secret configMap
  | phase, _ => phase

def afterConnecting : Phase δ → Except ClientError δ → Phase δ
  | .equipped provider ip _ _, .ok client => .connected provider ip client
  | phase, _ => phase

def afterComparing : Phase δ → Except ClientError String → Phase δ
  | .connected provider ip client, .ok served => .compared provider ip client served
  | .connected _ _ _, .error _ => .finished
  | phase, _ => phase

def afterPushing : Phase δ → Except ClientError Unit → Phase δ
  | .compared provider ip client _, .ok () => .pushed provider ip client
  | .compared _ _ _ _, .error _ => .finished
  | phase, _ => phase

def next (phase : Phase δ) : (call : Call δ κ) → call.Reply → Phase δ
  | .getProvider _, reply => phase.afterReading reply
  | .publicIp _, reply => phase.afterDiscovery reply
  | .getSecret _, reply => phase.afterUnlocking reply
  | .getConfigMap _, reply => phase.afterEquipping reply
  | .createClient _ _ _, reply => phase.afterConnecting reply
  | .getIp _, reply => phase.afterComparing reply
  | .setIp _ _, reply => phase.afterPushing reply
  | _, _ => phase

/-! ### What a phase allows -/

def provider? : Phase δ → Option Provider
  | .preparing provider | .discovered provider _ | .unlocked provider _ _ => some provider
  | .equipped provider _ _ _ | .connected provider _ _ => some provider
  | .compared provider _ _ _ | .pushed provider _ _ => some provider
  | _ => none

theorem provider?_afterReading {phase : Phase δ} {reply : Except Failure (Option Provider)}
    {provider : Provider} (h : (phase.afterReading reply).provider? = some provider) :
    phase.provider? = some provider ∨ reply = .ok (some provider) := by
  cases phase with
  | opening =>
    match reply with
    | .ok (some found) => exact .inr (congrArg Except.ok h)
    | .ok none | .error _ => cases h
  | _ => exact .inl h

/-- A provider is found by reading it, and not otherwise. -/
theorem provider?_next {phase : Phase δ} {call : Call δ κ} (hcall : ∀ key, call ≠ .getProvider key)
    (reply : call.Reply) {provider : Provider}
    (h : (phase.next call reply).provider? = some provider) : phase.provider? = some provider := by
  cases call with
  | getProvider key => exact absurd rfl (hcall key)
  | publicIp | getSecret | getConfigMap | createClient | getIp | setIp =>
    cases phase <;> cases reply <;> first | exact h | cases h
  | _ => exact h

def allows (key : ObjectKey) (phase : Phase δ) : Call δ κ → Prop
  | .getProvider k => phase = .opening ∧ k = key
  | .patchStatus kind k patch => ∃ provider, phase.provider? = some provider ∧ kind = .provider ∧
      k = provider.key ∧ ∃ change, patch = Json.object [("status", change)]
  | .publicIp preferred => ∃ provider, phase = .preparing provider ∧
      preferred = provider.spec.customIpProvider
  | .createClient service secret configMap => ∃ provider ip,
      phase = .equipped provider ip secret configMap ∧ service = provider.spec.name
  | .getIp client => ∃ provider ip, phase = .connected provider ip client
  | .setIp client address => ∃ provider served,
      phase = .compared provider address client served ∧ address ≠ served
  | .listProviders | .getNotifier _ | .patchProvider _ _ => False
  | .createChannel _ _ _ | .greet _ | .notify _ _ => False
  | .getSecret _ | .getConfigMap _ | .now | .elapsed | .record _ => True

def rules (δ κ : Type) (key : ObjectKey) : Program.Rules (@Call.Reply δ κ) (Phase δ) where
  allows := allows key
  answers phase call reply after := after = phase.next call reply
  fails _ := True

def Ends (outcome : Outcome) (phase : Phase δ) : Prop :=
  match outcome with
  | .ok .awaitChange => phase = .absent
  | .ok (.requeue seconds) => ∃ provider ip client, seconds = provider.spec.retrySeconds ∧
      (phase = .compared provider ip client ip ∨ phase = .pushed provider ip client)
  | .error _ => True

end Phase

open Phase (rules)

structure Resembles {σ τ : Type} (found r : Resource σ τ) : Prop where
  metadata : r.metadata = found.metadata
  spec : r.spec = found.spec

namespace Resembles

variable {σ τ : Type} {found r r' : Resource σ τ}

theorem key (h : Resembles found r) : r.key = found.key := by
  rw [Resource.key, h.metadata, Resource.key]

theorem generation (h : Resembles found r) : r.generation = found.generation := by
  rw [Resource.generation, h.metadata, Resource.generation]

theorem trans (first : Resembles found r) (second : Resembles r r') : Resembles found r' :=
  ⟨second.metadata.trans first.metadata, second.spec.trans first.spec⟩

end Resembles

/-! ### The parts of the pass -/

variable {provider r : Provider} {key : ObjectKey}

theorem keeps_status (phase : Phase δ) {mutate : Mutation ProviderStatus}
    (hprovider : phase.provider? = some provider) (h : Resembles provider r) :
    (patchStatus mutate : Pass δ κ Provider Bool).Keeps (rules δ κ key)
      (fun _ r' phase' => Resembles provider r' ∧ phase' = phase) r phase := by
  refine keeps_patchStatus (fun _ => ⟨?_, fun after answer => ?_⟩) (fun _ _ _ _ => trivial)
    fun _ => ?_
  · exact ⟨provider, hprovider, rfl, h.key, _, rfl⟩
  · exact ⟨⟨h.metadata, h.spec⟩, answer⟩
  · exact ⟨⟨h.metadata, h.spec⟩, rfl⟩

/-- While there is a provider to write to, conditions can change. -/
theorem forbearing (phase : Phase δ) (hprovider : phase.provider? = some provider) :
    Tolerant (rules δ κ key) fun r s => Resembles provider r ∧ s = phase where
  clock r s h := by
    obtain ⟨h, rfl⟩ := h
    exact ⟨trivial, fun now after answer => ⟨h, answer⟩⟩
  sends r s h conditions := by
    obtain ⟨h, rfl⟩ := h
    refine ⟨⟨provider, hprovider, rfl, h.key, _, rfl⟩, ?_⟩
    exact fun after answer => ⟨⟨h.metadata, h.spec⟩, answer⟩
  refused _ _ _ _ _ _ _ := trivial
  keeps r s h conditions := ⟨⟨h.1.metadata, h.1.spec⟩, h.2⟩

theorem keeps_proceedCounting_ok {ε α β S : Type} {rules : Program.Rules (@Call.Reply δ κ) S}
    {category doing : String} {cause : ε → Cause} {value : α} {f : α → Pass δ κ Provider β}
    {gets : β → Provider → S → Prop} {s : S} (h : (f value).Keeps rules gets r s) :
    (proceedCounting category cause doing (.ok value) >>= f).Keeps rules gets r s :=
  h

theorem keeps_proceedCounting_bind {ε α β S : Type} {rules : Program.Rules (@Call.Reply δ κ) S}
    {category doing : String} {cause : ε → Cause} {s : S} {reply : Except ε α}
    {f : α → Pass δ κ Provider β} {gets : β → Provider → S → Prop}
    (fails : ∀ e, reply = .error e →
      let call : Call δ κ := .record (.failed Kind.provider.name category)
      rules.allows s call ∧ ∀ s', rules.answers s call () s' → rules.fails s')
    (h : ∀ value, reply = .ok value → (f value).Keeps rules gets r s) :
    (proceedCounting category cause doing reply >>= f).Keeps rules gets r s := by
  cases reply with
  | ok value => exact keeps_proceedCounting_ok (h value rfl)
  | error e =>
    obtain ⟨allowed, answered⟩ := fails e rfl
    have hfails : (proceedCounting category cause doing (.error e) :
        Pass δ κ Provider α).Keeps rules (fun _ _ _ => False) r s :=
      keeps_ask_bind allowed fun _ after answer => keeps_throw _ (answered after answer)
    exact hfails.bind_of_false

theorem keeps_finish {phase : Phase δ} {ip : String} {client : δ} (h : Resembles provider r)
    (hphase : phase = .compared provider ip client ip ∨ phase = .pushed provider ip client) :
    (do
      let _ ← patchStatus (putProviderGeneration (some (← get).generation))
      return .requeue (← get).spec.retrySeconds : Pass δ κ Provider Next).Keeps (rules δ κ key)
      (fun outcome _ phase => Phase.Ends (.ok outcome) phase) r phase := by
  have hprovider : phase.provider? = some provider := by
    rcases hphase with rfl | rfl <;> rfl
  refine keeps_get_bind (Keeps.bind (keeps_status phase hprovider h) ?_)
  intro _ r' phase' ⟨h', hphase'⟩
  refine keeps_get_bind (keeps_pure ⟨provider, ip, client, ?_, ?_⟩)
  · rw [h'.spec]
  · rw [hphase']
    exact hphase

theorem keeps_overProvider (provider : Provider) :
    (overProvider key : Pass δ κ Provider Next).Keeps (rules δ κ key)
      (fun outcome _ phase => Phase.Ends (.ok outcome) phase) provider (.preparing provider) := by
  refine keeps_get_bind (keeps_ask_bind ⟨provider, rfl, rfl⟩ ?_)
  intro discovery _ answer
  obtain rfl := answer
  refine keeps_proceedCounting_bind (fun _ _ => ⟨trivial, fun _ _ => trivial⟩) fun ip hip => ?_
  subst hip
  refine Keeps.bind (keeps_status (.discovered provider ip) rfl ⟨rfl, rfl⟩) fun _ r s h => ?_
  refine Keeps.bind (keeps_fetchSecret
    (fun reply r s => Resembles provider r ∧ s = Phase.afterUnlocking (.discovered provider ip) reply)
    (fun reply => forbearing _ (by cases reply <;> rfl)) (fun _ _ _ _ => trivial)
    ⟨trivial, fun _ _ answer => ⟨h.1, h.2 ▸ answer⟩⟩) fun secret r s h => ?_
  obtain ⟨h, rfl⟩ := h
  refine Keeps.bind (keeps_fetchConfigMap
    (fun reply r s => Resembles provider r ∧
      s = Phase.afterEquipping (.unlocked provider ip secret) reply)
    (fun reply => forbearing _ (by cases reply <;> rfl)) (fun _ _ _ _ => trivial)
    ⟨trivial, fun _ _ answer => ⟨h, answer⟩⟩) fun configMap r s h => ?_
  obtain ⟨h, rfl⟩ := h
  refine keeps_get_bind (keeps_ask_bind ⟨provider, ip, rfl, congrArg _ h.spec⟩ ?_)
  intro created _ answer
  obtain rfl := answer
  have hconnected : (Phase.afterConnecting (.equipped provider ip secret configMap) created).provider? =
      some provider := by
    cases created <;> rfl
  refine Keeps.bind ((forbearing _ hconnected).recordCreation (fun _ _ _ => trivial) ⟨h, rfl⟩) ?_
  intro client r phase ⟨hcreated, h, hphase⟩
  subst hcreated hphase
  refine keeps_ask_bind ⟨provider, ip, rfl⟩ ?_
  intro reply _ answer
  obtain rfl := answer
  refine keeps_proceedCounting_bind (fun _ _ => ⟨trivial, fun _ _ => trivial⟩) fun served hserved => ?_
  subst hserved
  refine Keeps.bind (keeps_status (.compared provider ip client served) rfl h) ?_
  intro _ r phase ⟨h, hphase⟩
  subst hphase
  by_cases hsame : ip = served
  · subst served
    rw [if_neg fun h => h rfl]
    exact keeps_finish h (.inl rfl)
  · rw [if_pos hsame]
    refine keeps_ask_bind ⟨provider, served, rfl, hsame⟩ ?_
    intro reply _ answer
    obtain rfl := answer
    refine keeps_proceedCounting_bind (fun _ _ => ⟨trivial, fun _ _ => trivial⟩) fun value hvalue => ?_
    subst hvalue
    refine keeps_ask_bind trivial ?_
    intro _ _ answer
    obtain rfl := answer
    refine Keeps.bind (keeps_status (.pushed provider ip client) rfl h) ?_
    intro _ r phase ⟨h, hphase⟩
    exact keeps_finish h (.inr hphase)

/-- However it is answered, a provider pass keeps to its phases. -/
theorem provider_obeys (key : ObjectKey) :
    (Pass.provider key : Calling δ κ Outcome).Obeys (rules δ κ key) Phase.Ends .opening := by
  refine ⟨⟨rfl, rfl⟩, ?_⟩
  intro reply _ answer
  obtain rfl := answer
  cases reply with
  | error failure => trivial
  | ok found =>
    cases found with
    | none => exact rfl
    | some provider =>
      exact (keeps_overProvider provider).obeys (fun _ _ _ got => got) fun _ _ _ => trivial

end DynamicDns.Pass
