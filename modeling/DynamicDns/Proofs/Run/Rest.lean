import DynamicDns.Proofs.Run.Briefing
import DynamicDns.Proofs.Run.Upkeep

/-!
# Passes come to rest

Both kinds of pass write what the other reads: what a provider pass finds is announced, and what was
announced is marked on providers. Still, where nothing fails and nobody else changes the cluster, one
pass over each provider and then two over each notifier leave an estate at rest: every provider is
upheld, and every notifier is informed. A provider that is upheld stays so when notifiers are briefed,
and a notifier that is informed stays so when others are. Passes over an estate at rest stir nothing,
so it stays as it is (`comes_to_rest`).
-/

namespace DynamicDns

open Pass (Outcome)

variable {δ κ : Type}

namespace Estate

variable {world : Surroundings δ} {key other : ObjectKey}
  {start estate next final : Estate δ κ} {n m : Nat}

theorem Since.trans (first : Since start n next) (second : Since next m final) :
    Since start (n + m) final := by
  obtain ⟨⟨earlier, hearlier, rfl⟩, still⟩ := first
  obtain ⟨⟨later, hlater, rfl⟩, still'⟩ := second
  refine ⟨⟨earlier ++ later, ?_, List.countP_append⟩, fun hnone => ?_⟩
  · rw [hlater, hearlier, List.append_assoc]
  · obtain ⟨hfirst, hsecond⟩ := Nat.add_eq_zero_iff.1 hnone
    exact ⟨(still' hsecond).1.trans (still hfirst).1, (still' hsecond).2.trans (still hfirst).2⟩

/-! ### One pass after the other -/

/-- A pass over an object leads from one estate to another. -/
def Visits (world : Surroundings δ) (kind : Kind) (key : ObjectKey) (start estate : Estate δ κ) :
    Prop :=
  ∃ outcome, (kind.pass key : Calling δ κ Outcome).Yields (Serves world key) start outcome estate

/-- Passes over some objects, one after the other, lead from one estate to another. -/
inductive Tours (world : Surroundings δ) :
    List (Kind × ObjectKey) → Estate δ κ → Estate δ κ → Prop where
  | nil (estate : Estate δ κ) : Tours world [] estate estate
  | cons {kind : Kind} {key : ObjectKey} {visits : List (Kind × ObjectKey)}
      {start next final : Estate δ κ} (visit : Visits world kind key start next)
      (rest : Tours world visits next final) : Tours world ((kind, key) :: visits) start final

/-- Every object stands where it belongs, and the marker of every notifier can be told apart. -/
structure Orderly (estate : Estate δ κ) : Prop where
  kept : estate.cluster.WellKept
  plain : ∀ (key : ObjectKey) (r : Notifier), estate.cluster.stored? key = some r →
    key.marker.Plain

theorem Visits.ends {kind : Kind} {ends : Outcome → Estate δ κ → Prop}
    (visit : Visits world kind key start estate)
    (obeys : (kind.pass key : Calling δ κ Outcome).Obeys (rules κ world key) ends start) :
    ∃ outcome, ends outcome estate := by
  obtain ⟨outcome, yields⟩ := visit
  exact ⟨outcome, obeys.ends_of_yields yields⟩

theorem Visits.upkept (kept : start.cluster.WellKept)
    (visit : Visits world .provider key start estate) : Upkept world key start estate := by
  obtain ⟨-, upkept⟩ := visit.ends (provider_upkeeps kept)
  exact upkept

theorem Visits.briefed (orderly : start.Orderly) (visit : Visits world .notifier key start estate) :
    Briefed world key start estate := by
  obtain ⟨-, briefed⟩ := visit.ends (notifier_briefs orderly.kept (orderly.plain key))
  exact briefed

/-! ### Provider passes -/

namespace Upkept

theorem stored?_eq (upkept : Upkept world key start estate) (other : ObjectKey) :
    (estate.cluster.stored? other : Option Notifier) = start.cluster.stored? other :=
  congrArg (Shelf.get? · other) upkept.upkeep.notifiers

theorem orderly (upkept : Upkept world key start estate) (orderly : start.Orderly) :
    estate.Orderly :=
  ⟨upkept.upkeep.kept, fun other r found =>
    orderly.plain other r ((upkept.stored?_eq other).symm.trans found)⟩

theorem keeps_upheld (upkept : Upkept world key start estate) (upheld : start.Upheld world other) :
    estate.Upheld world other := by
  by_cases hkey : key = other
  · exact hkey ▸ upkept.upheld
  · intro r found
    rw [upkept.accounts other hkey]
    exact upheld r ((upkept.upkeep.providers other hkey).symm.trans found)

end Upkept

theorem Tours.upheld {providers : List ObjectKey} (orderly : start.Orderly)
    (tour : Tours world (providers.map (Kind.provider, ·)) start final) :
    final.Orderly ∧
      (∀ key, (final.cluster.stored? key : Option Notifier) = start.cluster.stored? key) ∧
        ∀ key, start.Upheld world key ∨ key ∈ providers → final.Upheld world key := by
  induction providers generalizing start with
  | nil =>
    cases tour
    exact ⟨orderly, fun _ => rfl, fun key h => h.resolve_right List.not_mem_nil⟩
  | cons visited rest ih =>
    cases tour with
    | cons visit tour =>
      have upkept := visit.upkept orderly.kept
      obtain ⟨orderly', notifiers, upheld⟩ := ih (upkept.orderly orderly) tour
      refine ⟨orderly', fun key => (notifiers key).trans (upkept.stored?_eq key), fun key h => ?_⟩
      apply upheld
      rcases h with h | h
      · exact .inl (upkept.keeps_upheld h)
      · rcases List.mem_cons.1 h with rfl | h
        · exact .inl upkept.upheld
        · exact .inr h

/-! ### Notifier passes -/

structure Attains (world : Surroundings δ) (passes : Nat) (key : ObjectKey) (estate : Estate δ κ) :
    Prop where
  greeted : 1 ≤ passes → estate.Greeted key
  informed : 2 ≤ passes → estate.Informed world key

namespace Briefed

theorem orderly (briefed : Briefed world key start estate) (orderly : start.Orderly) :
    estate.Orderly := by
  refine ⟨briefed.briefing.kept, fun other r found => ?_⟩
  by_cases hkey : key = other
  · subst other
    have found : estate.cluster.notifiers.get? key = some r := found
    have stays := briefed.briefing.stays
    rw [found] at stays
    obtain ⟨origin, found'⟩ := Option.isSome_iff_exists.1 stays.symm
    exact orderly.plain key origin found'
  · exact orderly.plain other r ((briefed.briefing.notifiers other hkey).symm.trans found)

theorem keeps_upheld (briefed : Briefed world key start estate)
    (upheld : start.Upheld world other) : estate.Upheld world other := by
  intro r found
  obtain ⟨r', found', bare⟩ := briefed.briefing.found found
  obtain ⟨settled, served⟩ := upheld r' found'
  rw [briefed.accounts]
  exact ⟨settled.congr (Provider.eq_of_bare (·.generation) (fun _ => rfl) bare.symm)
    (Provider.eq_of_bare (·.spec) (fun _ => rfl) bare.symm)
    (Provider.eq_of_bare (·.statusOrInitial) (fun _ => rfl) bare.symm), served⟩

theorem keeps_attains (briefed : Briefed world key start estate) (orderly : start.Orderly)
    (hne : key ≠ other) (attains : start.Attains world n other) : estate.Attains world n other := by
  have found' (r : Notifier) (found : estate.cluster.stored? other = some r) :
      start.cluster.stored? other = some r :=
    (briefed.briefing.notifiers other hne).symm.trans found
  refine ⟨fun h r found => attains.greeted h r (found' r found), fun h r found => ?_⟩
  obtain ⟨settled, owes⟩ := attains.informed h r (found' r found)
  exact ⟨settled, briefed.briefing.owes hne (orderly.plain other r (found' r found)) owes⟩

theorem attains (briefed : Briefed world key start estate) (attains : start.Attains world n key) :
    estate.Attains world (n + 1) key :=
  ⟨fun _ => briefed.greeted, fun h => briefed.informed (attains.greeted (Nat.le_of_succ_le_succ h))⟩

end Briefed

/-- With each pass over it a notifier attains more, and providers stay upheld. -/
theorem Tours.attains {notifiers : List ObjectKey} (orderly : start.Orderly)
    (tour : Tours world (notifiers.map (Kind.notifier, ·)) start final) :
    final.Orderly ∧ (∀ key, start.Upheld world key → final.Upheld world key) ∧
      ∀ n key, start.Attains world n key →
        final.Attains world (n + notifiers.count key) key := by
  induction notifiers generalizing start with
  | nil =>
    cases tour
    exact ⟨orderly, fun _ h => h, fun _ _ h => h⟩
  | cons visited rest ih =>
    cases tour with
    | cons visit tour =>
      have briefed := visit.briefed orderly
      obtain ⟨orderly', upheld, attains⟩ := ih (briefed.orderly orderly) tour
      refine ⟨orderly', fun key h => upheld key (briefed.keeps_upheld h), fun n key h => ?_⟩
      by_cases hkey : visited = key
      · subst visited
        rw [List.count_cons_self, ← Nat.add_assoc, Nat.add_right_comm]
        exact attains _ _ (briefed.attains h)
      · rw [List.count_cons_of_ne hkey]
        exact attains n key (briefed.keeps_attains orderly hkey h)

/-! ### Passes can be made -/

def supply (world : Surroundings δ) (client : δ) (channel : κ) (accounts : ObjectKey → String) :
    (call : Call δ κ) → call.Reply
  | .publicIp _ => .ok (world.ip (world.owner client))
  | .getSecret _ => .ok default
  | .getConfigMap _ => .ok default
  | .createClient _ _ _ => .ok client
  | .createChannel _ _ _ => .ok channel
  | .getIp client => .ok (accounts (world.owner client))
  | .setIp _ _ | .greet _ | .notify _ _ => .ok ()
  | .getProvider _ | .getNotifier _ => .ok none
  | .listProviders => .ok []
  | .patchStatus _ _ _ | .patchProvider _ _ => .ok ()
  | .now => ""
  | .elapsed => 0
  | .record _ => ()

def serve (world : Surroundings δ) (client : δ) (channel : κ) (call : Call δ κ)
    (estate : Estate δ κ) : call.Reply × Estate δ κ :=
  let (reply, cluster) := estate.cluster.answer world.scope none
    (supply world client channel estate.accounts) call
  (reply, ⟨cluster, world.pushed estate.accounts call, estate.calls ++ [⟨call, reply⟩]⟩)

theorem serves_serve (world : Surroundings δ) (client : δ) (channel : κ) (call : Call δ κ)
    (estate : Estate δ κ) :
    estate.Serves world (world.owner client) call (serve world client channel call estate).1
      (serve world client channel call estate).2 := by
  refine ⟨?_, ⟨supply world client channel estate.accounts, rfl⟩, rfl, rfl⟩
  cases call with
  | createClient => exact ⟨client, rfl, rfl⟩
  | createChannel => exact ⟨channel, rfl⟩
  | _ => trivial

def tour (world : Surroundings δ) (client : ObjectKey → δ) (channel : κ)
    (visits : List (Kind × ObjectKey)) (estate : Estate δ κ) : Estate δ κ :=
  visits.foldl (fun estate visit =>
    ((visit.1.pass visit.2).run (serve world (client visit.2) channel) estate).2) estate

theorem tours_tour {world : Surroundings δ} {client : ObjectKey → δ}
    (owner : ∀ key, world.owner (client key) = key) (channel : κ)
    (visits : List (Kind × ObjectKey)) (estate : Estate δ κ) :
    Tours world visits estate (estate.tour world client channel visits) := by
  induction visits generalizing estate with
  | nil => exact .nil estate
  | cons visit rest ih =>
    refine .cons ⟨_, Program.yields_run (fun call estate => ?_) _ _⟩ (ih _)
    have serves := serves_serve world (client visit.2) channel call estate
    rwa [owner] at serves

/-! ### At rest -/

structure Rests (world : Surroundings δ) (estate : Estate δ κ) : Prop where
  upheld : ∀ key, estate.Upheld world key
  informed : ∀ key, estate.Informed world key

theorem Rests.visits {kind : Kind} (rests : start.Rests world) (orderly : start.Orderly)
    (visit : Visits world kind key start estate) : Since start 0 estate := by
  cases kind with
  | provider => exact (visit.upkept orderly.kept).idle (rests.upheld key)
  | notifier => exact (visit.briefed orderly).idle (rests.informed key)

theorem Rests.since (rests : start.Rests world) (since : Since start 0 estate) :
    estate.Rests world := by
  obtain ⟨hcluster, haccounts⟩ := since.still rfl
  refine ⟨fun key r found => ?_, fun key r found => ?_⟩
  · rw [haccounts]
    exact rests.upheld key r (hcluster ▸ found)
  · rw [hcluster]
    exact rests.informed key r (hcluster ▸ found)

theorem Rests.tours {visits : List (Kind × ObjectKey)} (rests : start.Rests world)
    (orderly : start.Orderly) (tour : Tours world visits start final) : Since start 0 final := by
  induction tour with
  | nil estate => exact Since.refl estate
  | cons visit _ ih =>
    have since := rests.visits orderly visit
    have orderly' : Orderly _ := ⟨(since.still rfl).1 ▸ orderly.kept, fun key r found =>
      orderly.plain key r ((since.still rfl).1 ▸ found)⟩
    exact since.trans (ih (rests.since since) orderly')

/-- A pass over each provider and then two over each notifier leave an estate at rest. -/
theorem Tours.rests {providers notifiers : List ObjectKey} (orderly : start.Orderly)
    (eachProvider : ∀ (key : ObjectKey) (provider : Provider),
      start.cluster.stored? key = some provider → key ∈ providers)
    (eachNotifier : ∀ (key : ObjectKey) (notifier : Notifier),
      start.cluster.stored? key = some notifier → 2 ≤ notifiers.count key)
    (upkeep : Tours world (providers.map (Kind.provider, ·)) start next)
    (briefing : Tours world (notifiers.map (Kind.notifier, ·)) next final) :
    final.Orderly ∧ final.Rests world := by
  obtain ⟨orderly', hnotifiers, upheld⟩ := upkeep.upheld orderly
  obtain ⟨orderly'', stays, attains⟩ := briefing.attains orderly'
  refine ⟨orderly'', fun key => stays key (upheld key ?_), fun key => ?_⟩
  · by_cases hkey : key ∈ providers
    · exact .inr hkey
    · exact .inl fun r found => absurd (eachProvider key r found) hkey
  · -- A key that no notifier stands under needs no passes.
    have enough : ∃ n, next.Attains world n key ∧ 2 ≤ n + notifiers.count key := by
      have hkey := hnotifiers key
      cases found : (start.cluster.stored? key : Option Notifier) with
      | none =>
        rw [found] at hkey
        have absent (r : Notifier) (found' : next.cluster.stored? key = some r) : False := by
          rw [hkey] at found'
          cases found'
        exact ⟨2, ⟨fun _ r found' => (absent r found').elim,
          fun _ r found' => (absent r found').elim⟩, Nat.le_add_right _ _⟩
      | some notifier =>
        exact ⟨0, ⟨fun h => absurd h (by decide), fun h => absurd h (by decide)⟩,
          (eachNotifier key notifier found).trans (Nat.le_add_left _ _)⟩
    obtain ⟨n, attained, hle⟩ := enough
    exact (attains n key attained).informed hle

/-- Where nothing fails, a pass over each provider and then two over each notifier lead to rest. Passes
over any objects that follow, in any order and as many as there may be, write nothing to the store, push
no address, and greet and notify nobody: the cluster and the accounts stay as they are. -/
theorem comes_to_rest (world : Surroundings δ) {start settled told final : Estate δ κ}
    {providers notifiers : List ObjectKey} {visits : List (Kind × ObjectKey)}
    (kept : start.cluster.WellKept)
    (plain : ∀ key notifier, start.cluster.notifiers.get? key = some notifier → key.marker.Plain)
    (eachProvider : ∀ key provider, start.cluster.providers.get? key = some provider →
      key ∈ providers)
    (eachNotifier : ∀ key notifier, start.cluster.notifiers.get? key = some notifier →
      2 ≤ notifiers.count key)
    (upkeep : Tours world (providers.map (Kind.provider, ·)) start settled)
    (briefing : Tours world (notifiers.map (Kind.notifier, ·)) settled told)
    (further : Tours world visits told final) :
    told.Rests world ∧ ∃ later, final.calls = told.calls ++ later ∧
      (∀ answered ∈ later, answered.call.stirs = false) ∧
        final.cluster = told.cluster ∧ final.accounts = told.accounts := by
  obtain ⟨orderly, rests⟩ := Tours.rests ⟨kept, plain⟩ eachProvider eachNotifier upkeep briefing
  obtain ⟨⟨later, hcalls, hlater⟩, still⟩ := rests.tours orderly further
  refine ⟨rests, later, hcalls, fun answered hanswered => ?_, still rfl⟩
  rw [List.countP_eq_zero] at hlater
  exact Bool.eq_false_iff.2 (hlater answered hanswered)

end Estate

/-- A zone whose address has changed is upheld, and a hook is greeted and told of it; passes over them
that follow stir nothing. -/
theorem Home.comes_to_rest_at_home :
    let world : Surroundings ObjectKey := ⟨none, fun _ => "192.0.2.7", id⟩
    let zone := Home.key "zone"
    let hook := Home.key "hook"
    let start : Estate ObjectKey Unit := ⟨Home.cluster, fun _ => "192.0.2.1", []⟩
    let settled := start.tour world id () [(.provider, zone)]
    let told := settled.tour world id () [(.notifier, hook), (.notifier, hook)]
    let final := told.tour world id () [(.notifier, hook), (.provider, zone), (.notifier, hook)]
    told.Rests world ∧ ∃ later, final.calls = told.calls ++ later ∧
      (∀ answered ∈ later, answered.call.stirs = false) ∧
        final.cluster = told.cluster ∧ final.accounts = told.accounts := by
  intro world zone hook start settled told final
  have tours (visits : List (Kind × ObjectKey)) (estate : Estate ObjectKey Unit) :
      Estate.Tours world visits estate (estate.tour world id () visits) :=
    Estate.tours_tour (fun _ => rfl) () visits estate
  have isHook (key : ObjectKey) (notifier : Notifier)
      (found : Home.cluster.notifiers.get? key = some notifier) : key = hook :=
    (Prod.mk.inj (List.mem_singleton.1 (Shelf.mem_of_get? found))).1
  have isZone (key : ObjectKey) (provider : Provider)
      (found : Home.cluster.providers.get? key = some provider) : key = zone :=
    (Prod.mk.inj (List.mem_singleton.1 (Shelf.mem_of_get? found))).1
  have plain : hook.marker.Plain := ⟨⟨by decide, by decide, by decide⟩, by decide⟩
  have upkeep : Estate.Tours world ([zone].map (Kind.provider, ·)) start settled := tours _ start
  have briefing : Estate.Tours world ([hook, hook].map (Kind.notifier, ·)) settled told :=
    tours _ settled
  refine Estate.comes_to_rest world Home.wellKept_cluster (fun key notifier found => ?_)
    (fun key provider found => ?_) (fun key notifier found => ?_) upkeep briefing (tours _ told)
  · rw [isHook key notifier found]
    exact plain
  · exact List.mem_singleton.2 (isZone key provider found)
  · rw [isHook key notifier found]
    decide

end DynamicDns
