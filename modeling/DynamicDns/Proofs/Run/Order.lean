import DynamicDns.Proofs.Run.Customary
import DynamicDns.Proofs.Run.Relay

/-!
# In whatever order providers are listed

A ready notifier is told of the pending providers in the order in which they are listed. Each of them is
marked for itself, and of the notifier itself it is only the number of messages that matters, so where
all calls succeed a pass leaves the same behind whatever that order is, but for the times in conditions
(`announces_alike_in_any_order`).
-/

namespace DynamicDns

open Pass

variable {δ κ : Type}

/-! ### What is due -/

theorem dueAmong_perm {key : ObjectKey} {marker : Marker} {listed listed' : List Provider}
    (perm : listed.Perm listed') : (dueAmong key marker listed).Perm (dueAmong key marker listed') :=
  (perm.filter _).filterMap _

namespace Cluster

def timeless (cluster : Cluster) : Cluster :=
  { cluster with
    providers := cluster.providers.mapValues Provider.timeless
    notifiers := cluster.notifiers.mapValues Notifier.timeless }

variable {notifier : ObjectKey} {told told' : List (Provider × String)}
  {before cluster cluster' : Cluster}

/-- Providers are marked with what a notifier was told of them, and nothing else has changed, but for
that notifier. -/
structure Marks (notifier : ObjectKey) (told : List (Provider × String)) (before after : Cluster) :
    Prop where
  kept : after.WellKept
  secrets : after.secrets = before.secrets
  configMaps : after.configMaps = before.configMaps
  notifiers : ∀ other, notifier ≠ other → after.notifiers.get? other = before.notifiers.get? other
  marked : ∀ entry ∈ told, after.providers.get? entry.1.key =
    (before.providers.get? entry.1.key).map fun stored => Contribution.on stored (.mark notifier entry.2)
  unmarked : ∀ key, (∀ entry ∈ told, entry.1.key ≠ key) →
    after.providers.get? key = before.providers.get? key

theorem Marks.refl (kept : cluster.WellKept) (notifier : ObjectKey) :
    cluster.Marks notifier [] cluster where
  kept := kept
  secrets := rfl
  configMaps := rfl
  notifiers _ _ := rfl
  marked := by simp
  unmarked _ _ := rfl

theorem Marks.put (marks : before.Marks notifier told cluster) {r : Notifier}
    (own : r.key = notifier) (status : NotifierStatus) :
    before.Marks notifier told (cluster.store notifier (r.put status)) where
  kept := marks.kept.putNotifier own
  secrets := marks.secrets
  configMaps := marks.configMaps
  notifiers other hne :=
    (cluster.stored?_store notifier other (r.put status)).trans
      ((if_neg hne).trans (marks.notifiers other hne))
  marked := marks.marked
  unmarked := marks.unmarked

theorem Marks.mark (marks : before.Marks notifier told cluster) (entry : Provider × String)
    (found : (before.providers.get? entry.1.key).isSome)
    (fresh : ∀ other ∈ told, other.1.key ≠ entry.1.key) :
    ∃ cluster', cluster.patch .provider entry.1.key (notifier.marker.patch entry.2) = .ok cluster' ∧
      before.Marks notifier (told ++ [entry]) cluster' ∧ cluster'.notifiers = cluster.notifiers := by
  obtain ⟨stored, hstored⟩ := Option.isSome_iff_exists.1 found
  have hpatch := patch_mark ((marks.unmarked entry.1.key fresh).trans hstored) notifier entry.2
  let marked : Provider := Contribution.on stored (.mark notifier entry.2)
  have hstore (key : ObjectKey) : (cluster.store entry.1.key marked).providers.get? key =
      if entry.1.key = key then some marked else cluster.providers.get? key :=
    cluster.stored?_store entry.1.key key marked
  refine ⟨_, hpatch, ⟨(patch_marker marks.kept hpatch).1, marks.secrets, marks.configMaps,
    marks.notifiers, fun other hother => ?_, fun key hkey => ?_⟩, rfl⟩
  · rw [hstore]
    rcases List.mem_append.1 hother with hother | hother
    · rw [if_neg (fresh other hother).symm]
      exact marks.marked other hother
    · rw [List.mem_singleton.1 hother, if_pos rfl, hstored]
      rfl
  · rw [hstore, if_neg (hkey entry (by simp))]
    exact marks.unmarked key fun other hother => hkey other (List.mem_append_left _ hother)

/-- Which providers are marked does not depend on the order of the messages. -/
theorem Marks.providers_eq (marks : before.Marks notifier told cluster)
    (marks' : before.Marks notifier told' cluster') (perm : told.Perm told') :
    cluster.providers = cluster'.providers := by
  apply marks.kept.providers.ext marks'.kept.providers
  intro key
  by_cases h : ∃ entry ∈ told, entry.1.key = key
  · obtain ⟨entry, hentry, rfl⟩ := h
    rw [marks.marked entry hentry, marks'.marked entry (perm.subset hentry)]
  · have hnone (entry : Provider × String) (hentry : entry ∈ told) : entry.1.key ≠ key :=
      fun hkey => h ⟨entry, hentry, hkey⟩
    rw [marks.unmarked key hnone,
      marks'.unmarked key fun entry hentry => hnone entry (perm.symm.subset hentry)]

theorem Marks.timeless_eq (marks : before.Marks notifier told cluster)
    (marks' : before.Marks notifier told' cluster') (perm : told.Perm told')
    (same : (cluster.notifiers.get? notifier).map Notifier.timeless =
      (cluster'.notifiers.get? notifier).map Notifier.timeless) :
    cluster.timeless = cluster'.timeless := by
  have hnotifiers : cluster.notifiers.mapValues Notifier.timeless =
      cluster'.notifiers.mapValues Notifier.timeless := by
    have own (r : Notifier) : Resource.key (Notifier.timeless r) = r.key := rfl
    apply (marks.kept.notifiers.mapValues own).ext (marks'.kept.notifiers.mapValues own)
    intro key
    rw [Shelf.get?_mapValues, Shelf.get?_mapValues]
    by_cases hkey : notifier = key
    · rw [← hkey]
      exact same
    · rw [marks.notifiers key hkey, marks'.notifiers key hkey]
  rw [timeless, timeless, marks.providers_eq marks' perm, hnotifiers, marks.secrets, marks.configMaps,
    marks'.secrets, marks'.configMaps]

end Cluster

/-! ### The pass -/

namespace Round

variable {key : ObjectKey} {before : Cluster} {listed : List Provider} {notifier : Notifier}
  {outcome : Outcome} {trail : Trail δ κ}

theorem lasting_marks (stored : ∀ provider ∈ listed, (before.providers.get? provider.key).isSome)
    (apart : listed.Pairwise fun a b => a.key ≠ b.key) :
    Lasting key (dueAmong key key.marker listed) fun told => before.Marks key told where
  survives told cluster r status marks _ own := marks.put own status
  marks told entry rest cluster hdue marks := by
    obtain ⟨hlisted, fresh⟩ := next_of_due apart hdue
    exact marks.mark entry (stored entry.1 hlisted) fresh

/-- What a pass over a ready notifier leaves behind where all calls succeed. -/
structure Leaves (key : ObjectKey) (before : Cluster) (due : List (Provider × String))
    (notifier : Notifier) (outcome : Outcome) (trail : Trail δ κ) : Prop where
  outcome : outcome = .ok .awaitChange
  sent : messages trail.calls = delivered due
  marks : before.Marks key due trail.cluster
  remembered : (trail.cluster.notifiers.get? key).map Notifier.timeless =
    some (Notifier.timeless (notifier.briefed "" due.length))

/-- A notifier that is ready is stored as it is remembered. -/
theorem stored_of_holds {cluster : Cluster} {r : Notifier} (holds : cluster.Holds key r)
    (ready : r.statusOrInitial.isReady = true) : cluster.notifiers.get? key = some r := by
  obtain ⟨⟨metadata, spec, status⟩, found, rfl, rfl, rfl | ⟨-, hinitial⟩⟩ := holds
  · exact found
  · rw [Resource.statusOrInitial, hinitial] at ready
    cases ready

/-- It is enough that the markers of the notifier are written. -/
theorem leaves_of_answers
    {answers : Trail δ κ → (call : Call δ κ) → call.Reply → Trail δ κ → Prop}
    (relays : ∀ trail call reply trail', (∀ provider patch, call = .patchProvider provider patch →
      ∃ ip, patch = key.marker.patch ip) → answers trail call reply trail' →
        trail.Relays listed (fun _ => .ok ()) call reply trail')
    (kept : before.WellKept) (read : before.notifiers.get? key = some notifier)
    (ready : notifier.statusOrInitial.isReady = true)
    (stored : ∀ provider ∈ listed, (before.providers.get? provider.key).isSome)
    (apart : listed.Pairwise fun a b => a.key ≠ b.key)
    (yields : (Pass.notifier key).Yields answers ⟨before, []⟩ outcome trail) :
    Leaves key before (dueAmong key key.marker listed) notifier outcome trail := by
  let rules : Program.Rules (@Call.Reply δ κ) (Trail δ κ) :=
    { allows := fun _ _ => True, answers := answers, fails := fun _ => False }
  have hosts : Hosts rules key (fun told => before.Marks key told) listed (fun _ => .ok ())
      (dueAmong key key.marker listed) := by
    refine ⟨⟨fun _ _ => trivial, fun trail call reply trail' hcall answer => ?_⟩,
      fun trail provider ip reply trail' answer => ?_, ?_⟩
    · exact relays _ _ _ _ (fun provider patch h => absurd h (hcall provider patch)) answer
    · refine relays _ _ _ _ (fun _ _ h => ?_) answer
      cases h
      exact ⟨ip, rfl⟩
    · -- All messages are delivered, so none has stopped the pass
      rintro trail ⟨_, _, _, _, -, -, -, absurd, -⟩
      cases absurd
  have obeys : (Pass.notifier key : Calling δ κ Outcome).Obeys rules
      (Leaves key before (dueAmong key key.marker listed) notifier) ⟨before, []⟩ := by
    refine ⟨trivial, fun reply trail₁ answer => ?_⟩
    obtain ⟨rfl, ongoing⟩ : reply = .ok (some notifier) ∧
        Ongoing key (fun told => before.Marks key told) [] [] notifier trail₁ :=
      begins kept read (Cluster.Marks.refl kept key)
        (hosts.answers _ (.getNotifier key) _ _ nofun answer)
    refine (keeps_overNotifier hosts (lasting_marks stored apart) ready ongoing).obeys ?_ ?_
    · rintro _ r trail' ⟨rfl, progress⟩
      have ready' : r.statusOrInitial.isReady = true := by
        rw [Notifier.isReady_of_timeless progress.remembers, Notifier.isReady_briefed, ready]
      refine ⟨rfl, progress.sent, progress.known, ?_⟩
      rw [stored_of_holds progress.holds ready', Option.map_some, progress.remembers]
    · exact fun _ _ absurd => absurd.elim
  exact obeys.ends_of_yields yields

theorem leaves_of_yields (kept : before.WellKept) (read : before.notifiers.get? key = some notifier)
    (ready : notifier.statusOrInitial.isReady = true)
    (stored : ∀ provider ∈ listed, (before.providers.get? provider.key).isSome)
    (apart : listed.Pairwise fun a b => a.key ≠ b.key)
    (yields : (Pass.notifier key).Yields (Trail.Relays listed fun _ => .ok ()) ⟨before, []⟩ outcome
      trail) :
    Leaves key before (dueAmong key key.marker listed) notifier outcome trail :=
  leaves_of_answers (fun _ _ _ _ _ relays => relays) kept read ready stored apart yields

end Round

/-- Where all calls succeed, two passes over a ready notifier that are listed the same providers send
the same messages, and leave the same behind but for the times in conditions. -/
theorem announces_alike_in_any_order {cluster : Cluster} {key : ObjectKey} {notifier : Notifier}
    {listed listed' : List Provider} {outcome outcome' : Outcome} {trail trail' : Trail δ κ}
    (kept : cluster.WellKept) (read : cluster.notifiers.get? key = some notifier)
    (ready : notifier.statusOrInitial.isReady = true)
    (stored : ∀ provider ∈ listed, (cluster.providers.get? provider.key).isSome)
    (apart : listed.Pairwise fun a b => a.key ≠ b.key) (perm : listed.Perm listed')
    (yields : (Pass.notifier key).Yields (Trail.Relays listed fun _ => .ok ()) ⟨cluster, []⟩ outcome
      trail)
    (yields' : (Pass.notifier key).Yields (Trail.Relays listed' fun _ => .ok ()) ⟨cluster, []⟩ outcome'
      trail') :
    (messages trail.calls).Perm (messages trail'.calls) ∧
      outcome = .ok .awaitChange ∧ outcome' = .ok .awaitChange ∧
      trail.cluster.timeless = trail'.cluster.timeless ∧
      trail.cluster.providers = trail'.cluster.providers := by
  have due : (dueAmong key key.marker listed).Perm (dueAmong key key.marker listed') :=
    dueAmong_perm perm
  have leaves := Round.leaves_of_yields kept read ready stored apart yields
  have leaves' := Round.leaves_of_yields kept read ready
    (fun provider h => stored provider (perm.symm.subset h))
    (perm.pairwise apart fun hne => hne.symm) yields'
  refine ⟨?_, leaves.outcome, leaves'.outcome, ?_, leaves.marks.providers_eq leaves'.marks due⟩
  · rw [leaves.sent, leaves'.sent]
    exact due.map _
  · apply leaves.marks.timeless_eq leaves'.marks due
    rw [leaves.remembered, leaves'.remembered, due.length_eq]

namespace Home

theorem announces_alike_at_home :
    let both := (Pass.notifier (key "hook")).run (Relay.relay [apex, zone] fun _ => .ok ())
      ⟨pairCluster, []⟩
    let turned := (Pass.notifier (key "hook")).run (Relay.relay [zone, apex] fun _ => .ok ())
      ⟨pairCluster, []⟩
    pairCluster.WellKept ∧ [apex, zone].Perm [zone, apex] ∧
    messages both.2.calls ≠ messages turned.2.calls ∧
    both.2.cluster.marked (key "hook") (key "zone") = some "192.0.2.1" ∧
    (messages both.2.calls).Perm (messages turned.2.calls) ∧
      both.1 = .ok .awaitChange ∧ turned.1 = .ok .awaitChange ∧
      both.2.cluster.timeless = turned.2.cluster.timeless ∧
      both.2.cluster.providers = turned.2.cluster.providers := by
  intro both turned
  have stored (provider : Provider) (h : provider ∈ [apex, zone]) :
      (pairCluster.providers.get? provider.key).isSome = true := by
    rcases List.mem_pair.1 h with rfl | rfl <;> rfl
  have apart : [apex, zone].Pairwise fun a b => a.key ≠ b.key :=
    List.pairwise_pair.2 (by decide)
  have perm : [apex, zone].Perm [zone, apex] := .swap zone apex []
  have yields (listed : List Provider) := Program.yields_run
    (Relay.relays_relay listed fun _ => .ok ()) (Pass.notifier (key "hook")) ⟨pairCluster, []⟩
  have differ : messages both.2.calls ≠ messages turned.2.calls := by decide +kernel
  have marked : both.2.cluster.marked (key "hook") (key "zone") = some "192.0.2.1" := by
    decide +kernel
  exact ⟨wellKept_pairCluster, perm, differ, marked,
    announces_alike_in_any_order wellKept_pairCluster rfl rfl stored apart perm (yields _) (yields _)⟩

end Home

end DynamicDns
