import DynamicDns.Proofs.Pass.History
import DynamicDns.Proofs.Pass.Notifier
import DynamicDns.Proofs.Pass.Phase
import DynamicDns.Proofs.World.Cluster
import DynamicDns.World.Basic

/-!
# Many passes over one store

Passes run in lanes. A notifier has one lane, so two of its passes never overlap, and a provider has
as many as are wanted. A move starts a pass in a free lane, takes a pass one call further, or changes
the cluster from elsewhere, and moves come in any order. A call to the store is refused, and then
changes nothing, or it is served from the cluster; all other calls are answered in any way.
-/

namespace DynamicDns

open Pass (Outcome)

variable {δ κ : Type}

def Kind.pass : Kind → ObjectKey → Calling δ κ Outcome
  | .provider => Pass.provider
  | .notifier => Pass.notifier

inductive Lane where
  | notifier (key : ObjectKey)
  | provider (key : ObjectKey) (number : Nat)
  deriving DecidableEq

def Lane.pass : Lane → Calling δ κ Outcome
  | .notifier key => Pass.notifier key
  | .provider key _ => Pass.provider key

/-- A pass that is going on: what it has done, the latest first, and what it is still to do. -/
structure Ongoing (δ κ : Type) where
  past : List (Answered δ κ)
  rest : Calling δ κ Outcome

inductive Event (δ κ : Type) where
  | answered (answered : Answered δ κ)
  | ended (outcome : Outcome)

/-- An event in a lane, and what the pass had done before. -/
structure Entry (δ κ : Type) where
  lane : Lane
  past : List (Answered δ κ)
  event : Event δ κ

/-- A cluster, the passes over it that are going on, and all that has happened, the latest first. -/
structure Scene (δ κ : Type) where
  cluster : Cluster
  ongoing : Lane → Option (Ongoing δ κ)
  log : List (Entry δ κ)

inductive Move (δ κ : Type) where
  | start (lane : Lane)
  | advance (lane : Lane) (refusal : Option Failure) (outside : (call : Call δ κ) → call.Reply)
  | elsewhere (change : Cluster → Cluster)

def Move.lane? : Move δ κ → Option Lane
  | .start lane | .advance lane _ _ => some lane
  | .elsewhere _ => none

namespace Cluster

def reading {α : Type} (refusal : Option Failure) (value : α) : Except Failure α :=
  match refusal with
  | some failure => .error failure
  | none => .ok value

def patching (refusal : Option Failure) (cluster : Cluster) (kind : Kind) (key : ObjectKey)
    (change : Json) : Except Failure Unit × Cluster :=
  match refusal with
  | some failure => (.error failure, cluster)
  | none =>
    match cluster.patch kind key change with
    | .ok cluster' => (.ok (), cluster')
    | .error error => (.error (error.failure kind key), cluster)

def answer (scope : Option String) (refusal : Option Failure)
    (outside : (call : Call δ κ) → call.Reply) (cluster : Cluster) :
    (call : Call δ κ) → call.Reply × Cluster
  | .getProvider key => (reading refusal (cluster.providers.get? key), cluster)
  | .listProviders =>
    (reading refusal (cluster.providers.values.filter fun provider =>
      scope.all fun ns => ns = provider.key.ns), cluster)
  | .getNotifier key => (reading refusal (cluster.notifiers.get? key), cluster)
  | .patchStatus kind key patch => cluster.patching refusal kind key patch
  | .patchProvider key patch => cluster.patching refusal .provider key patch
  | call => (outside call, cluster)

end Cluster

namespace Scene

def initial (cluster : Cluster) : Scene δ κ := ⟨cluster, fun _ => none, []⟩

def start (lane : Lane) (scene : Scene δ κ) : Scene δ κ :=
  match scene.ongoing lane with
  | some _ => scene
  | none => { scene with ongoing := Function.update scene.ongoing lane (some ⟨[], lane.pass⟩) }

def advance (scope : Option String) (lane : Lane) (refusal : Option Failure)
    (outside : (call : Call δ κ) → call.Reply) (scene : Scene δ κ) : Scene δ κ :=
  match scene.ongoing lane with
  | none => scene
  | some ⟨past, .done outcome⟩ =>
    { scene with
      ongoing := Function.update scene.ongoing lane none
      log := ⟨lane, past, .ended outcome⟩ :: scene.log }
  | some ⟨past, .call call next⟩ =>
    let (reply, cluster) := scene.cluster.answer scope refusal outside call
    { cluster
      ongoing := Function.update scene.ongoing lane (some ⟨⟨call, reply⟩ :: past, next reply⟩)
      log := ⟨lane, past, .answered ⟨call, reply⟩⟩ :: scene.log }

def step (scope : Option String) (scene : Scene δ κ) : Move δ κ → Scene δ κ
  | .start lane => scene.start lane
  | .advance lane refusal outside => scene.advance scope lane refusal outside
  | .elsewhere change => { scene with cluster := change scene.cluster }

def play (scope : Option String) (scene : Scene δ κ) (moves : List (Move δ κ)) : Scene δ κ :=
  moves.foldl (step scope) scene

end Scene

/-- Whoever else changes the cluster keeps its objects where they belong. -/
def Move.Tidy : Move δ κ → Prop
  | .elsewhere change => ∀ cluster, cluster.WellKept → (change cluster).WellKept
  | _ => True

/-- Whoever else changes the cluster keeps its objects where they belong and a view as it is. -/
def Move.Respects {β : Type} (view : Cluster → β) : Move δ κ → Prop
  | .elsewhere change => ∀ cluster, cluster.WellKept →
      (change cluster).WellKept ∧ view (change cluster) = view cluster
  | _ => True

theorem Move.Respects.tidy {β : Type} {view : Cluster → β} {move : Move δ κ}
    (respects : move.Respects view) : move.Tidy := by
  cases move with
  | elsewhere change => exact fun cluster kept => (respects cluster kept).1
  | start | advance => trivial

theorem Move.respects_of_lane? {β : Type} (view : Cluster → β) {move : Move δ κ} {lane : Lane}
    (h : move.lane? = some lane) : move.Respects view := by
  cases move with
  | elsewhere change => cases h
  | start | advance => trivial

/-- What every move keeps holds of every run. -/
theorem Scene.play_induction {scope : Option String} {motive : Scene δ κ → Prop}
    {moves : List (Move δ κ)} {scene : Scene δ κ} (hstart : motive scene)
    (hstep : ∀ scene, ∀ move ∈ moves, motive scene → motive (scene.step scope move)) :
    motive (scene.play scope moves) := by
  induction moves generalizing scene with
  | nil => exact hstart
  | cons move rest ih =>
    refine ih (hstep scene move List.mem_cons_self hstart) fun scene other hother => ?_
    exact hstep scene other (List.mem_cons_of_mem _ hother)

/-! ### What an answer says of the cluster -/

namespace Cluster

variable {scope : Option String} {refusal : Option Failure}
  {outside : (call : Call δ κ) → call.Reply} {cluster : Cluster}

theorem eq_of_reading_eq_ok {α : Type} {value found : α} (h : reading refusal value = .ok found) :
    found = value := by
  cases refusal with
  | some failure => cases h
  | none =>
    cases h
    rfl

theorem patching_cases {refusal : Option Failure} {cluster cluster' : Cluster} {kind : Kind}
    {key : ObjectKey} {change : Json} {reply : Except Failure Unit}
    (hanswer : cluster.patching refusal kind key change = (reply, cluster')) :
    (∃ failure, reply = .error failure ∧ cluster' = cluster) ∨
      reply = .ok () ∧ cluster.patch kind key change = .ok cluster' := by
  cases refusal with
  | some failure =>
    cases hanswer
    exact .inl ⟨failure, rfl, rfl⟩
  | none =>
    rw [patching] at hanswer
    cases hpatch : cluster.patch kind key change with
    | ok patched =>
      rw [hpatch] at hanswer
      cases hanswer
      exact .inr ⟨rfl, rfl⟩
    | error error =>
      rw [hpatch] at hanswer
      cases hanswer
      exact .inl ⟨_, rfl, rfl⟩

end Cluster

/-! ### A small cluster -/

namespace Home

def key (name : String) : ObjectKey := ⟨"home", name⟩

def metadata (name : String) : Metadata :=
  { Metadata.empty with name := some name, ns := some "home" }

def hook : Notifier := ⟨metadata "hook", ⟨"Webhook", "token", "settings"⟩, none⟩

def zone : Provider :=
  ⟨metadata "zone", ⟨"Cloudflare", "token", "settings", 900, none, [⟨"hook", none⟩]⟩,
    some ⟨"192.0.2.1", "192.0.2.1", none, []⟩⟩

def cluster : Cluster :=
  ⟨[(key "zone", zone)], [(key "hook", hook)],
    [(key "token", ⟨metadata "token", none, none, none, none⟩)],
    [(key "settings", ⟨metadata "settings", none, none, none⟩)]⟩

theorem wellKept_cluster : cluster.WellKept := by
  refine ⟨⟨List.pairwise_singleton _ _, ?_⟩, ⟨List.pairwise_singleton _ _, ?_⟩, ?_⟩
  all_goals
    intro entry hentry
    rw [List.mem_singleton.1 hentry]
  · rfl
  · rfl
  · exact List.Pairwise.nil

theorem marked_cluster (notifier provider : ObjectKey) : cluster.marked notifier provider = none := by
  rw [Cluster.marked, cluster, Shelf.get?]
  split <;> rfl

def outside (ip : String) (failing : List Act) (call : Call Unit Unit) : call.Reply :=
  let world := { World.fresh cluster with buildsBlindly := true, publicIp := some ip, dnsIp := ip }
  let faults := failing.map fun act => ⟨act, none, .channel (.unsupportedKind "Webhook")⟩
  ((world.withFaults faults).answer call).1

def round (ip : String) (failing : List Act) (lanes : List Lane) : List (Move Unit Unit) :=
  lanes.map .start ++
    (List.replicate 20 (lanes.map fun lane => .advance lane none (outside ip failing))).flatten

theorem lane?_of_mem_round {ip : String} {failing : List Act} {lanes : List Lane}
    {move : Move Unit Unit} (h : move ∈ round ip failing lanes) :
    ∃ lane ∈ lanes, move.lane? = some lane := by
  rcases List.mem_append.1 h with h | h
  · obtain ⟨lane, hlane, rfl⟩ := List.mem_map.1 h
    exact ⟨lane, hlane, rfl⟩
  · obtain ⟨turns, hturns, h⟩ := List.mem_flatten.1 h
    rw [List.eq_of_mem_replicate hturns] at h
    obtain ⟨lane, hlane, rfl⟩ := List.mem_map.1 h
    exact ⟨lane, hlane, rfl⟩

theorem respects_of_mem_round {β : Type} (view : Cluster → β) {ip : String} {failing : List Act}
    {lanes : List Lane} {move : Move Unit Unit} (h : move ∈ round ip failing lanes) :
    move.Respects view := by
  obtain ⟨lane, -, hlane⟩ := lane?_of_mem_round h
  exact Move.respects_of_lane? view hlane

end Home

end DynamicDns
