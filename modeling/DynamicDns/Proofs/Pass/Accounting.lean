import DynamicDns.Proofs.Pass.History
import DynamicDns.Proofs.Pass.Notifier
import DynamicDns.Proofs.Pass.Phase
import DynamicDns.World.Basic

/-!
# What a pass counts

Some calls are to be counted, by how they are answered: a discovery or a client that failed, an
address that was pushed, a message that was sent or could not be. A past is balanced if what was
counted in it is what was to be counted, in the same order. Between such a call and its count a past
is out of balance, and all exits of a pass, where a status is refused or a delivery fails, lie where
it is balanced again. A pass that is counted ends with the count of itself (`counted_accounts`).
-/

namespace DynamicDns

variable {δ κ : Type}

def Answered.counted : Answered δ κ → List Metrics.Event
  | ⟨.record event, _⟩ => [event]
  | _ => []

/-- What is to be counted of an act of a pass over an object, by whether it succeeded. -/
def Act.due (key : ObjectKey) : Act → Bool → List Metrics.Event
  | .publicIp, false => [.failed Kind.provider.name Metrics.discoveryFailure]
  | .getIp, false | .setIp, false => [.failed Kind.provider.name Metrics.dnsFailure]
  | .setIp, true => [.addressPushed key]
  | .greet, sent => [.message Metrics.greetingMessage sent]
  | .notify, sent => [.message Metrics.changeMessage sent]
  | _, _ => []

def Answered.due (key : ObjectKey) (answered : Answered δ κ) : List Metrics.Event :=
  answered.call.act?.elim [] fun act => act.due key answered.succeeded

namespace Pass

def counts (past : List (Answered δ κ)) : List Metrics.Event := past.flatMap Answered.counted

def dues (key : ObjectKey) (past : List (Answered δ κ)) : List Metrics.Event :=
  past.flatMap (Answered.due key)

/-- What was to be counted was, once each and in order. -/
def Balanced (key : ObjectKey) (past : List (Answered δ κ)) : Prop := counts past = dues key past

theorem Balanced.aside {key : ObjectKey} {past : List (Answered δ κ)} (h : Balanced key past)
    {answered : Answered δ κ} (counted : answered.counted = []) (due : answered.due key = []) :
    Balanced key (answered :: past) := by
  rw [Balanced, counts, dues, List.flatMap_cons, List.flatMap_cons, counted, due]
  exact h

/-- A call and its count right after it. -/
theorem Balanced.count {key : ObjectKey} {past : List (Answered δ κ)} (h : Balanced key past)
    {answered : Answered δ κ} {event : Metrics.Event} (counted : answered.counted = [])
    (due : answered.due key = [event]) :
    Balanced key (⟨.record event, ()⟩ :: answered :: past) := by
  have hevent : Answered.due key (⟨.record event, ()⟩ : Answered δ κ) = [] := rfl
  have hcounted : (⟨.record event, ()⟩ : Answered δ κ).counted = [event] := rfl
  simp only [Balanced, counts, dues, List.flatMap_cons, counted, due, hevent, hcounted,
    List.nil_append]
  exact congrArg _ h

namespace Accounting

/-- Any call may be made and answered in any way, and is remembered. A pass fails only where what it
was to count is counted. -/
def rules (δ κ : Type) (key : ObjectKey) :
    Program.Rules (@Call.Reply δ κ) (List (Answered δ κ)) where
  allows _ _ := True
  answers past call reply past' := past' = ⟨call, reply⟩ :: past
  fails := Balanced key

variable {key : ObjectKey} {past : List (Answered δ κ)}

theorem tolerant (σ τ : Type) [Status τ] :
    Tolerant (rules δ κ key) fun (_ : Resource σ τ) => Balanced key where
  clock r past balanced := by
    refine ⟨trivial, ?_⟩
    rintro now _ rfl
    exact balanced.aside rfl rfl
  sends r past balanced conditions := by
    refine ⟨trivial, ?_⟩
    rintro _ rfl
    exact balanced.aside rfl rfl
  refused r past balanced patch failure := by
    rintro _ rfl
    exact balanced.aside rfl rfl
  keeps r past balanced conditions := balanced

theorem keeps_patchStatus {σ τ : Type} [Status τ] {mutate : Mutation τ} {r : Resource σ τ}
    (balanced : Balanced key past) :
    (patchStatus mutate : Pass δ κ (Resource σ τ) Bool).Keeps (rules δ κ key)
      (fun _ _ => Balanced key) r past := by
  have haside (reply : Except Failure Unit) (patch : Json) :
      Balanced key (⟨.patchStatus (Status.kind τ) r.key patch, reply⟩ :: past) :=
    balanced.aside rfl rfl
  refine Pass.keeps_patchStatus (fun _ => ⟨trivial, ?_⟩) ?_ fun _ => balanced
  · rintro _ rfl
    exact haside _ _
  · rintro patch failure _ rfl
    exact haside _ _

/-! ### Provider passes -/

section Provider

variable {r : Provider}

theorem keeps_proceedCounting {ε α β : Type} {category doing : String} {cause : ε → Cause}
    {reply : Except ε α} {f : α → Pass δ κ Provider β} {gets : β → Provider → _ → Prop}
    (fails : ∀ e, reply = .error e →
      Balanced key (⟨.record (.failed Kind.provider.name category), ()⟩ :: past))
    (h : ∀ value, reply = .ok value → (f value).Keeps (rules δ κ key) gets r past) :
    (proceedCounting category cause doing reply >>= f).Keeps (rules δ κ key) gets r past := by
  apply keeps_proceedCounting_bind _ h
  intro e he
  refine ⟨trivial, ?_⟩
  rintro _ rfl
  exact fails e he

theorem keeps_finish (balanced : Balanced key past) :
    (do
      let _ ← patchStatus (putProviderGeneration (some (← get).generation))
      return .requeue (← get).spec.retrySeconds : Pass δ κ Provider Next).Keeps (rules δ κ key)
      (fun _ _ => Balanced key) r past := by
  refine keeps_get_bind (Keeps.bind (keeps_patchStatus balanced) fun _ r' past' balanced' => ?_)
  exact keeps_get_bind (keeps_pure balanced')

theorem keeps_overProvider (balanced : Balanced key past) :
    (overProvider key : Pass δ κ Provider Next).Keeps (rules δ κ key)
      (fun _ _ => Balanced key) r past := by
  refine keeps_get_bind (keeps_ask_bind trivial ?_)
  rintro discovery _ rfl
  refine keeps_proceedCounting (fun e he => ?_) fun ip hip => ?_
  · subst he
    exact balanced.count rfl rfl
  subst hip
  have discovered : Balanced key (⟨.publicIp r.spec.customIpProvider, .ok ip⟩ :: past) :=
    balanced.aside rfl rfl
  refine Keeps.bind (keeps_patchStatus discovered) fun _ r₁ past₁ balanced₁ => ?_
  refine Keeps.bind (keeps_fetchSecret (fun _ _ => Balanced key) (fun _ => tolerant _ _)
    (fun _ _ _ h => h) ⟨trivial, ?_⟩) fun secret r₂ past₂ balanced₂ => ?_
  · rintro reply _ rfl
    exact balanced₁.aside rfl rfl
  refine Keeps.bind (keeps_fetchConfigMap (fun _ _ => Balanced key) (fun _ => tolerant _ _)
    (fun _ _ _ h => h) ⟨trivial, ?_⟩) fun configMap r₃ past₃ balanced₃ => ?_
  · rintro reply _ rfl
    exact balanced₂.aside rfl rfl
  refine keeps_get_bind (keeps_ask_bind trivial ?_)
  rintro created _ rfl
  have built : Balanced key (⟨.createClient r₃.spec.name secret configMap, created⟩ :: past₃) :=
    balanced₃.aside rfl rfl
  refine Keeps.bind ((tolerant _ _).recordCreation (fun _ _ h => h) built) ?_
  rintro client r₄ past₄ ⟨-, balanced₄⟩
  refine keeps_ask_bind trivial ?_
  rintro served _ rfl
  refine keeps_proceedCounting (fun e he => ?_) fun current hcurrent => ?_
  · subst he
    exact balanced₄.count rfl rfl
  subst hcurrent
  have read : Balanced key (⟨.getIp client, .ok current⟩ :: past₄) := balanced₄.aside rfl rfl
  refine Keeps.bind (keeps_patchStatus read) fun _ r₅ past₅ balanced₅ => ?_
  split
  · refine keeps_ask_bind trivial ?_
    rintro pushed _ rfl
    refine keeps_proceedCounting (fun e he => ?_) fun value hvalue => ?_
    · subst he
      exact balanced₅.count rfl rfl
    subst hvalue
    -- The push is counted before its status is written, so a refused status comes too late to matter.
    refine keeps_ask_bind trivial ?_
    rintro _ _ rfl
    have counted : Balanced key
        (⟨.record (.addressPushed key), ()⟩ :: ⟨.setIp client ip, .ok ()⟩ :: past₅) :=
      balanced₅.count rfl rfl
    exact Keeps.bind (keeps_patchStatus counted) fun _ r₆ past₆ balanced₆ => keeps_finish balanced₆
  · exact keeps_finish balanced₅

end Provider

/-! ### Notifier passes -/

section Notifier

variable {r : Notifier}

theorem keeps_greet {channel : κ} (balanced : Balanced key past) :
    (greet channel : Pass δ κ Notifier Unit).Keeps (rules δ κ key) (fun _ _ => Balanced key) r
      past := by
  refine keeps_ask_bind trivial ?_
  rintro reply _ rfl
  refine keeps_ask_bind trivial ?_
  rintro _ _ rfl
  have counted : Balanced key (⟨.record (.message Metrics.greetingMessage reply.isOk), ()⟩ ::
      ⟨.greet channel, reply⟩ :: past) :=
    balanced.count rfl rfl
  cases reply with
  | ok value =>
    refine keeps_stamped_bind trivial ?_
    rintro now _ rfl change
    have clocked : Balanced key (⟨.now, now⟩ :: _) := counted.aside rfl rfl
    exact Keeps.bind (keeps_patchStatus clocked) fun _ _ _ h => keeps_pure h
  | error e =>
    refine Keeps.bind ((tolerant _ _).recordCondition _ _ counted) fun _ _ _ h => ?_
    exact keeps_proceed_error h

theorem keeps_announce {channel : κ} {marker : Marker} {provider : Provider} {ip : String}
    (balanced : Balanced key past) :
    (announce channel marker provider ip : Pass δ κ Notifier Unit).Keeps (rules δ κ key)
      (fun _ _ => Balanced key) r past := by
  refine keeps_ask_bind trivial ?_
  rintro reply _ rfl
  refine keeps_ask_bind trivial ?_
  rintro _ _ rfl
  let message := Wording.announcement ip provider.statusOrInitial.publicIp provider.key.name
  have counted : Balanced key (⟨.record (.message Metrics.changeMessage reply.isOk), ()⟩ ::
      ⟨.notify channel message, reply⟩ :: past) :=
    balanced.count rfl rfl
  cases reply with
  | ok value =>
    refine Keeps.bind ((tolerant _ _).recordCondition _ _ counted) fun _ r' past' balanced' => ?_
    refine keeps_ask_bind trivial ?_
    rintro marked _ rfl
    have written : Balanced key
        (⟨.patchProvider provider.key (marker.patch ip), marked⟩ :: past') :=
      balanced'.aside rfl rfl
    cases marked with
    | ok value => exact keeps_pure written
    | error failure => exact keeps_throw _ written
  | error e =>
    refine keeps_stamped_bind trivial ?_
    rintro now _ rfl change
    have clocked : Balanced key (⟨.now, now⟩ :: _) := counted.aside rfl rfl
    refine Keeps.bind (keeps_patchStatus clocked) fun _ _ _ h => ?_
    exact keeps_proceed_error h

theorem keeps_announceAll {channel : κ} {marker : Marker} (providers : List Provider)
    (balanced : Balanced key past) :
    (announceAll channel marker providers : Pass δ κ Notifier Unit).Keeps (rules δ κ key)
      (fun _ _ => Balanced key) r past := by
  induction providers generalizing r past with
  | nil => exact keeps_pure balanced
  | cons provider rest ih =>
    rw [announceAll]
    cases pending? marker provider with
    | none => exact ih balanced
    | some ip => exact Keeps.bind (keeps_announce balanced) fun _ _ _ balanced' => ih balanced'

theorem keeps_overNotifier (balanced : Balanced key past) :
    (overNotifier key : Pass δ κ Notifier Next).Keeps (rules δ κ key)
      (fun _ _ => Balanced key) r past := by
  refine Keeps.bind (keeps_ensureDeclared (tolerant _ _) balanced) fun _ r₁ past₁ balanced₁ => ?_
  refine Keeps.bind (keeps_fetchSecret (fun _ _ => Balanced key) (fun _ => tolerant _ _)
    (fun _ _ _ h => h) ⟨trivial, ?_⟩) fun secret r₂ past₂ balanced₂ => ?_
  · rintro reply _ rfl
    exact balanced₁.aside rfl rfl
  refine Keeps.bind (keeps_fetchConfigMap (fun _ _ => Balanced key) (fun _ => tolerant _ _)
    (fun _ _ _ h => h) ⟨trivial, ?_⟩) fun configMap r₃ past₃ balanced₃ => ?_
  · rintro reply _ rfl
    exact balanced₂.aside rfl rfl
  refine keeps_get_bind (keeps_ask_bind trivial ?_)
  rintro created _ rfl
  have built : Balanced key (⟨.createChannel r₃.spec.name secret configMap, created⟩ :: past₃) :=
    balanced₃.aside rfl rfl
  refine Keeps.bind ((tolerant _ _).recordCreation (fun _ _ h => h) built) ?_
  rintro channel r₄ past₄ ⟨-, balanced₄⟩
  refine keeps_get_bind ?_
  split
  · exact Keeps.bind (keeps_greet balanced₄) fun _ _ _ balanced₅ => keeps_pure balanced₅
  refine keeps_get_bind (keeps_ask_bind trivial ?_)
  rintro listed _ rfl
  have read : Balanced key (⟨.listProviders, listed⟩ :: past₄) := balanced₄.aside rfl rfl
  cases listed with
  | error failure => exact keeps_throw_bind _ read
  | ok providers =>
    refine Keeps.bind (keeps_announceAll _ read) fun _ r₅ past₅ balanced₅ => keeps_get_bind ?_
    exact Keeps.bind (keeps_patchStatus balanced₅) fun _ _ _ balanced₆ => keeps_pure balanced₆

end Notifier

/-! ### A whole pass -/

theorem provider_balances (balanced : Balanced key past) :
    (Pass.provider key : Calling δ κ Outcome).Obeys (rules δ κ key) (fun _ => Balanced key) past := by
  refine ⟨trivial, ?_⟩
  rintro reply _ rfl
  have read : Balanced key (⟨.getProvider key, reply⟩ :: past) := balanced.aside rfl rfl
  cases reply with
  | error failure => exact read
  | ok found =>
    cases found with
    | none => exact read
    | some provider => exact (keeps_overProvider read).obeys (fun _ _ _ h => h) fun _ _ h => h

theorem notifier_balances (balanced : Balanced key past) :
    (Pass.notifier key : Calling δ κ Outcome).Obeys (rules δ κ key) (fun _ => Balanced key) past := by
  refine ⟨trivial, ?_⟩
  rintro reply _ rfl
  have read : Balanced key (⟨.getNotifier key, reply⟩ :: past) := balanced.aside rfl rfl
  cases reply with
  | error failure => exact read
  | ok found =>
    cases found with
    | none => exact read
    | some notifier => exact (keeps_overNotifier read).obeys (fun _ _ _ h => h) fun _ _ h => h

end Accounting

def conclusion (kind : Kind) (outcome : Outcome) (duration : Nat) : List Metrics.Event :=
  (if outcome.isOk then [] else [.failed kind.name Metrics.passFailure]) ++
    [.passed kind.name outcome.isOk duration]

/-- A pass that is counted has counted what was to be counted, and at last itself. -/
theorem counted_accounts {key : ObjectKey} (kind : Kind) {pass : Calling δ κ Outcome}
    (balances : ∀ past, Balanced key past →
      pass.Obeys (Accounting.rules δ κ key) (fun _ => Balanced key) past) :
    (counted kind pass).Obeys (Accounting.rules δ κ key)
      (fun outcome past => ∃ duration, counts past = conclusion kind outcome duration ++ dues key past)
      [] := by
  refine ⟨trivial, ?_⟩
  rintro start _ rfl
  have started : Balanced key [(⟨.elapsed, start⟩ : Answered δ κ)] := rfl
  refine (Program.obeys_bind _ _ pass _ _).2 (Program.Obeys.mono (balances _ started) ?_)
  intro outcome past balanced
  refine ⟨trivial, ?_⟩
  rintro stop _ rfl
  refine ⟨trivial, ?_⟩
  rintro _ _ rfl
  cases outcome with
  | ok next => exact ⟨stop - start, congrArg (List.cons _) balanced⟩
  | error failure =>
    refine ⟨trivial, ?_⟩
    rintro _ _ rfl
    exact ⟨stop - start, congrArg (fun counts => _ :: _ :: counts) balanced⟩

end Pass

end DynamicDns
