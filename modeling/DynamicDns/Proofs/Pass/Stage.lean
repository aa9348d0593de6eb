import DynamicDns.Pass.Notifier
import DynamicDns.Proofs.Pass.Conduct

/-!
# The stages of a notifier pass

How far a notifier pass has come follows from the calls that it has made and how they were answered:
what it read, whether it greeted, which announcements are still due, and whether one was delivered
whose marker is still owed. The rules say what a pass may do at each stage; in particular it greets
only a notifier that it read as not ready, announces only what is due, to one that it read as ready,
and writes a marker only for what it has just delivered. `notifier_obeys` says that the pass keeps
to these rules, whatever it is answered.
-/

namespace DynamicDns.Pass

variable {δ κ : Type}

/-- How far a pass over a notifier has come. -/
inductive Stage where
  | opening
  | absent
  | preparing (notifier : Notifier)
  | greeted (notifier : Notifier) (delivered : Bool)
  | promoted (notifier : Notifier)
  | announcing (notifier : Notifier) (listed : List Provider) (due : List (Provider × String))
  | owing (notifier : Notifier) (listed : List Provider) (provider : Provider) (ip : String)
      (due : List (Provider × String))
  | refused (notifier : Notifier)
  | demoted (notifier : Notifier)
  | finished

/-- What of a listing is to be announced, and which address. -/
def dueAmong (key : ObjectKey) (marker : Marker) (listed : List Provider) :
    List (Provider × String) :=
  (listed.filter fun provider => provider.refersTo key).filterMap fun provider =>
    (pending? marker provider).map fun ip => (provider, ip)

namespace Stage

/-! ### From one stage to the next -/

def afterReading : Stage → Except Failure (Option Notifier) → Stage
  | .opening, .ok (some notifier) => .preparing notifier
  | .opening, .ok none => .absent
  | .opening, .error _ => .finished
  | stage, _ => stage

def afterListing (key : ObjectKey) : Stage → Except Failure (List Provider) → Stage
  | .preparing notifier, .ok listed =>
    .announcing notifier listed (dueAmong key (Marker.ofNotifier notifier) listed)
  | .preparing _, .error _ => .finished
  | stage, _ => stage

def afterGreeting : Stage → Bool → Stage
  | .preparing notifier, delivered => .greeted notifier delivered
  | stage, _ => stage

def afterNotifying : Stage → Bool → Stage
  | .announcing notifier listed ((provider, ip) :: due), true =>
    .owing notifier listed provider ip due
  | .announcing notifier _ _, false => .refused notifier
  | stage, _ => stage

/-- A status that records what was said or could not be said ends the stage; all others do not. -/
def afterWriting : Stage → Bool → Stage
  | .greeted notifier true, true => .promoted notifier
  | .refused notifier, true => .demoted notifier
  | stage, true => stage
  | _, false => .finished

theorem afterWriting_false (stage : Stage) : stage.afterWriting false = .finished := by
  cases stage with
  | greeted notifier delivered => cases delivered <;> rfl
  | _ => rfl

def afterMarking : Stage → Bool → Stage
  | .owing notifier listed _ _ due, true => .announcing notifier listed due
  | .owing _ _ _ _ _, false => .finished
  | stage, _ => stage

def next (key : ObjectKey) (stage : Stage) : (call : Call δ κ) → call.Reply → Stage
  | .getNotifier _, reply => stage.afterReading reply
  | .listProviders, reply => stage.afterListing key reply
  | .greet _, reply => stage.afterGreeting reply.isOk
  | .notify _ _, reply => stage.afterNotifying reply.isOk
  | .patchStatus _ _ _, reply => stage.afterWriting reply.isOk
  | .patchProvider _ _, reply => stage.afterMarking reply.isOk
  | _, _ => stage

/-! ### What a stage allows -/

def writes? : Stage → Option (Notifier × Bool × Bool)
  | .preparing notifier =>
    some (notifier, notifier.statusOrInitial.isReady, notifier.statusOrInitial.isReady)
  | .greeted notifier delivered => some (notifier, false, delivered)
  | .announcing notifier _ _ => some (notifier, true, true)
  | .owing notifier _ _ _ _ => some (notifier, true, true)
  | .refused notifier => some (notifier, true, false)
  | _ => none

def announces? : Stage → Option (Provider × String)
  | .announcing _ _ (next :: _) => some next
  | _ => none

def owes? : Stage → Option (Notifier × Provider × String)
  | .owing notifier _ provider ip _ => some (notifier, provider, ip)
  | _ => none

theorem announces?_eq_some {stage : Stage} {entry : Provider × String}
    (h : stage.announces? = some entry) :
    ∃ notifier listed due, stage = .announcing notifier listed (entry :: due) := by
  cases stage with
  | announcing notifier listed due =>
    cases due with
    | nil => cases h
    | cons head rest =>
      cases h
      exact ⟨notifier, listed, rest, rfl⟩
  | _ => cases h

theorem owes?_eq_some {stage : Stage} {notifier : Notifier} {provider : Provider} {ip : String}
    (h : stage.owes? = some (notifier, provider, ip)) :
    ∃ listed due, stage = .owing notifier listed provider ip due := by
  cases stage with
  | owing notifier listed provider ip due =>
    cases h
    exact ⟨listed, due, rfl⟩
  | _ => cases h

def allows (key : ObjectKey) (stage : Stage) : Call δ κ → Prop
  | .getNotifier k => stage = .opening ∧ k = key
  | .listProviders => ∃ notifier, stage = .preparing notifier ∧ notifier.statusOrInitial.isReady = true
  | .greet _ => ∃ notifier, stage = .preparing notifier ∧ notifier.statusOrInitial.isReady = false
  | .notify _ message => ∃ provider ip, stage.announces? = some (provider, ip) ∧
      message = Wording.announcement ip provider.statusOrInitial.publicIp provider.key.name
  | .patchStatus kind k patch => ∃ notifier old new, stage.writes? = some (notifier, old, new) ∧
      kind = .notifier ∧ k = notifier.key ∧
      ∃ (before : Option NotifierStatus) (after : NotifierStatus), patch = statusPatch before after ∧
        (before.getD Status.initial).isReady = old ∧ after.isReady = new
  | .patchProvider k patch => ∃ notifier provider ip, stage.owes? = some (notifier, provider, ip) ∧
      k = provider.key ∧ patch = (Marker.ofNotifier notifier).patch ip
  | .getProvider _ | .publicIp _ | .createClient _ _ _ | .getIp _ | .setIp _ _ => False
  | .getSecret _ | .getConfigMap _ | .createChannel _ _ _ | .now | .elapsed | .record _ => True

def rules (δ κ : Type) (key : ObjectKey) : Program.Rules (@Call.Reply δ κ) Stage where
  allows := allows key
  answers stage call reply after := after = stage.next key call reply
  fails stage := stage.owes? = none

theorem fails_of_refused {key : ObjectKey} {stage after : Stage} {kind : Kind} {k : ObjectKey}
    {patch : Json} {failure : Failure}
    (answer : (rules δ κ key).answers stage (.patchStatus kind k patch) (.error failure) after) :
    (rules δ κ key).fails after := by
  obtain rfl := answer
  change (stage.afterWriting false).owes? = none
  rw [afterWriting_false]
  rfl

def Ends (outcome : Outcome) (stage : Stage) : Prop :=
  match outcome with
  | .ok .awaitChange => stage = .absent ∨ ∃ notifier listed, stage = .announcing notifier listed []
  | .ok (.requeue seconds) => seconds = 0 ∧ ∃ notifier, stage = .promoted notifier
  | .error _ => stage.owes? = none

end Stage

/-! ### What a pass remembers -/

structure Remembers (notifier : Notifier) (ready : Bool) (r : Notifier) : Prop where
  metadata : r.metadata = notifier.metadata
  isReady : r.statusOrInitial.isReady = ready

variable {notifier r : Notifier}

theorem Remembers.key {ready : Bool} (h : Remembers notifier ready r) : r.key = notifier.key := by
  rw [Resource.key, h.metadata, Resource.key]

theorem Remembers.marker {ready : Bool} (h : Remembers notifier ready r) :
    Marker.ofNotifier r = Marker.ofNotifier notifier := by
  rw [Marker.ofNotifier, h.metadata, Marker.ofNotifier]

/-- Where writing a status moves neither the readiness nor the stage, conditions can change. -/
theorem tolerant {key : ObjectKey} (stage : Stage) {ready : Bool}
    (hwrites : stage.writes? = some (notifier, ready, ready))
    (hsteady : stage.afterWriting true = stage) :
    Tolerant (Stage.rules δ κ key) fun r s => Remembers notifier ready r ∧ s = stage where
  clock r s h := by
    obtain ⟨h, rfl⟩ := h
    exact ⟨trivial, fun now after answer => ⟨h, answer⟩⟩
  sends r s h conditions := by
    obtain ⟨h, rfl⟩ := h
    refine ⟨⟨notifier, ready, ready, hwrites, rfl, h.key, r.status, _, rfl, h.isReady, h.isReady⟩, ?_⟩
    exact fun after answer => ⟨⟨h.metadata, h.isReady⟩, answer.trans hsteady⟩
  refused r s h patch failure after answer := Stage.fails_of_refused answer
  keeps r s h conditions := ⟨⟨h.1.metadata, h.1.isReady⟩, h.2⟩

end DynamicDns.Pass
