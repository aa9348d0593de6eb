import DynamicDns.Proofs.Run.Round
import DynamicDns.Proofs.World.Contributions

/-!
# All or nothing for each provider

A ready notifier is told of the pending providers one after the other, in the order in which they are
listed, and each of them is marked once the notifier was told of it. Where a message cannot be
delivered the pass ends: the notifier is not ready any more and says why, the providers before are
marked, and those from there on are as they were. So whatever becomes of the messages, a provider is
either told of and marked or neither, and nothing else of it changes (`announces_all_or_stops`).
-/

namespace DynamicDns

open Pass

variable {δ κ : Type}

/-! ### What becomes of the cluster -/

namespace Cluster

variable {notifier : ObjectKey} {told : List (Provider × String)} {before cluster : Cluster}

/-- What a notifier was told of is marked with the address that it was told, and nothing else has
changed, but for that notifier: other providers are as they were, and those that were told of up to
that mark. -/
structure Relayed (notifier : ObjectKey) (told : List (Provider × String))
    (before after : Cluster) : Prop extends before.Briefing notifier after where
  marks : ∀ entry ∈ told, after.marked notifier entry.1.key = some entry.2
  untold : ∀ key, (∀ entry ∈ told, entry.1.key ≠ key) →
    after.providers.get? key = before.providers.get? key
  annotations : ∀ key provider provider', before.providers.get? key = some provider →
    after.providers.get? key = some provider' → ∀ name, name ≠ notifier.marker.key →
      provider'.metadata.annotationList.lookup name = provider.metadata.annotationList.lookup name

theorem Relayed.refl (kept : cluster.WellKept) (notifier : ObjectKey) :
    cluster.Relayed notifier [] cluster where
  toBriefing := .refl kept notifier
  marks := by simp
  untold _ _ := rfl
  annotations _ _ _ found found' _ _ := by rw [Option.some.inj (found.symm.trans found')]

theorem Relayed.put (relayed : before.Relayed notifier told cluster) {r : Notifier}
    (holds : cluster.Holds notifier r) (own : r.key = notifier) (status : NotifierStatus) :
    before.Relayed notifier told (cluster.store notifier (r.put status)) where
  toBriefing := Estate.survives_briefing notifier before cluster r status relayed.toBriefing holds own
  marks := relayed.marks
  untold := relayed.untold
  annotations := relayed.annotations

theorem Relayed.mark (relayed : before.Relayed notifier told cluster) (plain : notifier.marker.Plain)
    {provider : Provider} (ip : String)
    (found : before.providers.get? provider.key = some provider)
    (fresh : ∀ entry ∈ told, entry.1.key ≠ provider.key) :
    ∃ cluster', cluster.patch .provider provider.key (notifier.marker.patch ip) = .ok cluster' ∧
      before.Relayed notifier (told ++ [(provider, ip)]) cluster' ∧
      cluster'.notifiers = cluster.notifiers := by
  have found' : cluster.stored? provider.key = some provider :=
    (relayed.untold provider.key fresh).trans found
  let marked : Provider := Contribution.on provider (.mark notifier ip)
  have hpatch := patch_mark found' notifier ip
  have hstore (key : ObjectKey) : (cluster.store provider.key marked).providers.get? key =
      if provider.key = key then some marked else cluster.providers.get? key :=
    cluster.stored?_store provider.key key marked
  obtain ⟨-, -, hmarked⟩ := patch_marker relayed.kept hpatch
  refine ⟨_, hpatch, ⟨relayed.toBriefing.mark found' hpatch rfl, ?_, ?_, ?_⟩, rfl⟩
  · intro entry hentry
    rw [hmarked notifier plain]
    rcases List.mem_append.1 hentry with hentry | hentry
    · rw [if_neg fun h => fresh entry hentry h.1.symm]
      exact relayed.marks entry hentry
    · rw [List.mem_singleton.1 hentry, if_pos ⟨rfl, rfl⟩]
  · intro key hkey
    rw [hstore, if_neg (hkey (provider, ip) (by simp))]
    exact relayed.untold key fun entry hentry => hkey entry (List.mem_append_left _ hentry)
  · intro key old new hold hnew name hname
    rw [hstore] at hnew
    split at hnew
    · rename_i hkey
      obtain rfl : provider = old := by
        rw [← hkey, found] at hold
        exact Option.some.inj hold
      rw [← Option.some.inj hnew]
      change (insertText notifier.marker.key ip provider.metadata.annotationList).lookup name = _
      rw [lookup_insertText, if_neg hname.symm]
    · exact relayed.annotations key old new hold hnew name hname

end Cluster

/-! ### The pass -/

namespace Relay

variable {key : ObjectKey} {before : Cluster} {listed : List Provider}
  {pattern : Nat → Except ChannelError Unit} {told : List (Provider × String)}
  {sent : List (String × Except ChannelError Unit)} {r : Notifier} {trail : Trail δ κ}

def Stopped (key : ObjectKey) (before : Cluster) (pattern : Nat → Except ChannelError Unit)
    (due : List (Provider × String)) (trail : Trail δ κ) : Prop :=
  Round.Halted key (fun told => before.Relayed key told) pattern due trail

structure Completed (key : ObjectKey) (before : Cluster) (pattern : Nat → Except ChannelError Unit)
    (due : List (Provider × String)) (trail : Trail δ κ) : Prop where
  delivers : ∀ i < due.length, pattern i = .ok ()
  relayed : before.Relayed key due trail.cluster
  sent : messages trail.calls = delivered due

def rules (δ κ : Type) (key : ObjectKey) (before : Cluster) (listed : List Provider)
    (pattern : Nat → Except ChannelError Unit) (due : List (Provider × String)) :
    Program.Rules (@Call.Reply δ κ) (Trail δ κ) where
  allows _ _ := True
  answers := Trail.Relays listed pattern
  fails := Stopped key before pattern due

/-- While a pass goes on: what was told of is marked, some messages were sent, and the store holds the
notifier that the pass remembers. -/
abbrev Relaying (key : ObjectKey) (before : Cluster) (told : List (Provider × String))
    (sent : List (String × Except ChannelError Unit)) (r : Notifier) (trail : Trail δ κ) : Prop :=
  Round.Ongoing key (fun told => before.Relayed key told) told sent r trail

theorem lasting (plain : key.marker.Plain)
    (found : ∀ provider ∈ listed, before.providers.get? provider.key = some provider)
    (apart : listed.Pairwise fun a b => a.key ≠ b.key) :
    Round.Lasting key (dueAmong key key.marker listed) fun told => before.Relayed key told where
  survives told cluster r status relayed holds own := relayed.put holds own status
  marks told entry rest cluster hdue relayed := by
    obtain ⟨hlisted, fresh⟩ := Round.next_of_due apart hdue
    exact relayed.mark plain entry.2 (found entry.1 hlisted) fresh

theorem hosts (due : List (Provider × String)) :
    Round.Hosts (rules δ κ key before listed pattern due) key (fun told => before.Relayed key told)
      listed pattern due where
  allows _ _ := trivial
  answers _ _ _ _ _ answer := answer
  marks _ _ _ _ _ answer := answer
  halts _ halted := halted

theorem keeps_overNotifier (plain : key.marker.Plain)
    (found : ∀ provider ∈ listed, before.providers.get? provider.key = some provider)
    (apart : listed.Pairwise fun a b => a.key ≠ b.key)
    (ready : r.statusOrInitial.isReady = true) (relaying : Relaying key before [] [] r trail) :
    (overNotifier key : Pass δ κ Notifier Next).Keeps
      (rules δ κ key before listed pattern (dueAmong key key.marker listed))
      (fun next _ trail' => next = .awaitChange ∧
        Completed key before pattern (dueAmong key key.marker listed) trail') r trail := by
  refine Keeps.mono (Round.keeps_overNotifier (hosts _) (lasting plain found apart) ready relaying) ?_
  rintro next r' trail' ⟨hnext, progress⟩
  exact ⟨hnext, progress.delivers, progress.known, progress.sent⟩

end Relay

namespace Relay

def respond (listed : List Provider) (pattern : Nat → Except ChannelError Unit)
    (trail : Trail Unit Unit) : (call : Call Unit Unit) → call.Reply × Cluster
  | .listProviders => (.ok listed, trail.cluster)
  | .getSecret _ => (.ok default, trail.cluster)
  | .getConfigMap _ => (.ok default, trail.cluster)
  | .createChannel _ _ _ => (.ok (), trail.cluster)
  | .notify _ _ => (pattern (messages trail.calls).length, trail.cluster)
  | call => trail.cluster.answer none none (Home.outside "192.0.2.7" []) call

def relay (listed : List Provider) (pattern : Nat → Except ChannelError Unit)
    (call : Call Unit Unit) (trail : Trail Unit Unit) : call.Reply × Trail Unit Unit :=
  let (reply, cluster) := respond listed pattern trail call
  (reply, ⟨cluster, trail.calls ++ [⟨call, reply⟩]⟩)

theorem relays_relay (listed : List Provider) (pattern : Nat → Except ChannelError Unit)
    (call : Call Unit Unit) (trail : Trail Unit Unit) :
    trail.Relays listed pattern call (relay listed pattern call trail).1
      (relay listed pattern call trail).2 := by
  refine ⟨?_, rfl⟩
  cases call with
  | listProviders | getSecret | getConfigMap | createChannel | notify => exact ⟨rfl, rfl⟩
  | _ => exact ⟨Home.outside "192.0.2.7" [], rfl⟩

end Relay

namespace Home

def readyHook : Notifier :=
  { hook with status := some { (Status.initial : NotifierStatus) with isReady := true } }

def apex : Provider := { zone with metadata := metadata "apex" }

def pairCluster : Cluster :=
  { cluster with
    providers := [(key "apex", apex), (key "zone", zone)]
    notifiers := [(key "hook", readyHook)] }

theorem wellKept_pairCluster : pairCluster.WellKept := by
  have hzones (entry : ObjectKey × Provider) (h : entry ∈ pairCluster.providers) :
      entry = (key "apex", apex) ∨ entry = (key "zone", zone) := by
    simpa [pairCluster] using h
  refine ⟨⟨List.pairwise_pair.2 (by decide), fun entry h => ?_⟩,
    ⟨List.pairwise_singleton _ _, fun entry h => ?_⟩, fun entry h => ?_⟩
  · rcases hzones entry h with rfl | rfl <;> rfl
  · rw [List.mem_singleton.1 h]
    rfl
  · rcases hzones entry h with rfl | rfl <;> exact List.Pairwise.nil

def onlyFirst (number : Nat) : Except ChannelError Unit :=
  if number = 0 then .ok () else .error (.rejected 503 "")

end Home

end DynamicDns
