import DynamicDns.Pass.Notifier
import DynamicDns.Pass.Provider
import DynamicDns.World.Edit

/-!
# Controllers

A controller keeps the resources of one kind moving. It knows the resources that it was told of, and
it plans at most one pass for each: at once when the resource appears or changes, and later as the
last pass asked. The notifier controller also looks at providers, and plans a pass at once for each
notifier that a provider refers to, whatever happened to the provider. A controller may be confined
to a namespace; what lies elsewhere it is not told of.

`Controller.run` plays a controller against a world and the edits of others. Times are in
milliseconds, and nothing but waiting takes time.
-/

namespace DynamicDns

/-- A controller of one kind of resource, for one namespace or for all. -/
structure Controller where
  kind : Kind
  scope : Option String

/-- Passes that are planned, by the time at which they are due. -/
abbrev Plan := List (Nat × ObjectKey)

/-- Plans a pass. Of two times for one resource the earlier stays. -/
def Plan.ask (plan : Plan) (time : Nat) (key : ObjectKey) : Plan :=
  if plan.any fun entry => entry.2 = key && entry.1 ≤ time then plan
  else plan.filter (fun entry => entry.2 ≠ key) ++ [(time, key)]

namespace Controller

/-! ### What a controller is told -/

/-- The kinds of resource that are listed and watched. -/
def watched (controller : Controller) : List Kind :=
  match controller.kind with
  | .provider => [.provider]
  | .notifier => [.notifier, .provider]

/-- The paths of the collections that are listed and watched. -/
def collections (controller : Controller) : List String :=
  controller.watched.map fun kind => kind.path controller.scope

def sees (controller : Controller) (key : ObjectKey) : Bool :=
  controller.scope.all fun ns => ns = key.ns

/-- What happened to an object. -/
inductive News where
  | provider (object : Provider)
  | providerGone (object : Provider)
  | notifier (object : Notifier)
  | notifierGone (object : Notifier)

def News.key : News → ObjectKey
  | .provider object | .providerGone object => object.key
  | .notifier object | .notifierGone object => object.key

def news (before after : World) : Edit → Option News
  | .putProvider provider => some (.provider provider)
  | .putNotifier notifier => some (.notifier notifier)
  | .merge .provider key _ => (after.cluster.providers.get? key).map .provider
  | .merge .notifier key _ => (after.cluster.notifiers.get? key).map .notifier
  | .delete .provider key => (before.cluster.providers.get? key).map .providerGone
  | .delete .notifier key => (before.cluster.notifiers.get? key).map .notifierGone
  | _ => none

/-- The news that the first listing makes. -/
def listing (world : World) : List News :=
  world.cluster.notifiers.values.map .notifier ++ world.cluster.providers.values.map .provider

/-! ### A run -/

/-- The state of a run: the world, the resources that the controller knows, and its plan. -/
structure State where
  world : World
  known : List ObjectKey
  plan : Plan

/-- Plans passes at once for those resources that the controller knows. -/
def wake (state : State) (time : Nat) (keys : List ObjectKey) : State :=
  { state with plan := keys.foldl (fun plan key =>
      if state.known.contains key then plan.ask time key else plan) state.plan }

/-- Takes in news of an object of the controller's own kind. -/
def meet (state : State) (time : Nat) (key : ObjectKey) : State :=
  let known := if state.known.contains key then state.known else state.known ++ [key]
  wake { state with known } time [key]

def forget (state : State) (key : ObjectKey) : State :=
  { state with known := state.known.erase key }

def hear (controller : Controller) (time : Nat) (state : State) (news : News) : State :=
  if !controller.sees news.key then state
  else
    match controller.kind, news with
    | .provider, .provider object => meet state time object.key
    | .provider, .providerGone object => forget state object.key
    | .notifier, .notifier object => meet state time object.key
    | .notifier, .notifierGone object => forget state object.key
    | .notifier, .provider object => wake state time object.notifiers
    | .notifier, .providerGone object => wake state time object.notifiers
    | .provider, _ => state

def pass (controller : Controller) (key : ObjectKey) : Calling Unit Unit Pass.Outcome :=
  match controller.kind with
  | .provider => Pass.counted .provider (Pass.provider key)
  | .notifier => Pass.counted .notifier (Pass.notifier key)

/-- Runs the pass over a resource, if the controller still knows it, and plans the next one. A pass
that is wanted right away is due one millisecond later. -/
def runPass (controller : Controller) (time : Nat) (state : State) (key : ObjectKey) : State :=
  if !state.known.contains key then state
  else
    let (outcome, world) := { state.world with elapsed := time * 1000000 }.run (controller.pass key)
    match Pass.next outcome with
    | .awaitChange => { state with world }
    | .requeue seconds =>
      { state with world, plan := state.plan.ask (time + max 1 (seconds * 1000)) key }

def runDue (controller : Controller) (time : Nat) (state : State) : State :=
  let (due, later) := state.plan.partition fun entry => entry.1 ≤ time
  (due.map (·.2)).foldl (controller.runPass time) { state with plan := later }

def makeEdit (controller : Controller) (time : Nat) (state : State) (edit : Edit) :
    Except PatchError State := do
  let world ← state.world.edit edit
  return (news state.world world edit).toList.foldl (controller.hear time) { state with world }

def nextTime? (state : State) (edits : List (Nat × Edit)) : Option Nat :=
  (state.plan.map (·.1) ++ edits.map (·.1)).min?

def runFrom (controller : Controller) (stop time : Nat) (state : State)
    (edits : List (Nat × Edit)) : Except PatchError State :=
  if _ : stop < time then return state
  else do
    let due := edits.takeWhile fun edit => edit.1 ≤ time
    let later := edits.dropWhile fun edit => edit.1 ≤ time
    let edited ← due.foldlM (fun state edit => controller.makeEdit time state edit.2) state
    let after := controller.runDue time edited
    match nextTime? after later with
    | none => return after
    | some next => controller.runFrom stop (max next (time + 1)) after later
termination_by stop + 1 - time

/-- Plays a run from the first listing until the end, with edits in the order of their times. -/
def run (controller : Controller) (stop : Nat) (world : World) (edits : List (Nat × Edit)) :
    Except PatchError World := do
  let listed := (listing world).foldl (controller.hear 0) ⟨world, [], []⟩
  return (← controller.runFrom stop 0 listed edits).world

end Controller

end DynamicDns
