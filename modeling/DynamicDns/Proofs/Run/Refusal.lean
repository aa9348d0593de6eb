import DynamicDns.Proofs.Marker.Naming
import DynamicDns.Proofs.Run.Order
import Mathlib.Logic.Relation

/-!
# Markers that are refused

The API server refuses a patch that writes an annotation under a key that is none. Whether a marker can
be written depends on how long the name and the namespace of its notifier are together. If the two fit
into the key, then all that is due is announced and marked. If they do not, then each pass delivers the
first announcement, cannot mark it, and ends, so the next one delivers the same announcement again
(`marks_or_repeats`).
-/

namespace DynamicDns

open Naming Pass

variable {δ κ : Type}

/-! ### Patches that are taken -/

namespace Json

def annotations (patch : Json) : Members :=
  (((patch.get? "metadata").bind (·.get? "annotations")).bind members?).getD []

/-- Each annotation that a patch writes stands under a key. All that the operator writes are of its
group, so keys without a group are left out. -/
def Acceptable (patch : Json) : Prop := ∀ entry ∈ patch.annotations, IsAnnotationKey entry.1

instance (patch : Json) : Decidable patch.Acceptable :=
  inferInstanceAs (Decidable (∀ entry ∈ patch.annotations, IsAnnotationKey entry.1))

end Json

theorem Marker.acceptable_patch_iff (marker : Marker) (ip : String) :
    (marker.patch ip).Acceptable ↔ IsAnnotationKey marker.key := by
  change (∀ entry ∈ [(marker.key, Json.str ip)], IsAnnotationKey entry.1) ↔ _
  rw [List.forall_mem_singleton]

/-- The store refuses patches with annotations that have no key, and takes every other patch that it
can. Lookups and constructions succeed, and messages are delivered. -/
def Trail.Screens (listed : List Provider) (trail : Trail δ κ) :
    (call : Call δ κ) → call.Reply → Trail δ κ → Prop
  | .patchProvider key patch, reply, trail' =>
    if patch.Acceptable then
      trail.Relays listed (fun _ => .ok ()) (.patchProvider key patch) reply trail'
    else
      reply.isOk = false ∧ trail' = ⟨trail.cluster, trail.calls ++ [⟨.patchProvider key patch, reply⟩]⟩
  | call, reply, trail' => trail.Relays listed (fun _ => .ok ()) call reply trail'

namespace Refusal

variable {key : ObjectKey} {listed : List Provider} {providers : Shelf Provider}
  {due : List (Provider × String)} {sent : List (String × Except ChannelError Unit)}
  {r : Notifier} {cluster cluster' : Cluster} {outcome : Outcome} {trail trail' : Trail δ κ}

theorem relays_of_screens {call : Call δ κ} {reply : call.Reply}
    (hcall : ∀ provider patch, call = .patchProvider provider patch → patch.Acceptable)
    (screens : trail.Screens listed call reply trail') :
    trail.Relays listed (fun _ => .ok ()) call reply trail' := by
  cases call with
  | patchProvider provider patch => rwa [Trail.Screens, if_pos (hcall provider patch rfl)] at screens
  | _ => exact screens

theorem refused_of_screens (unfit : ¬IsAnnotationKey key.marker.key) {provider : ObjectKey} {ip : String}
    {reply : Except Failure Unit}
    (screens : trail.Screens listed (.patchProvider provider (key.marker.patch ip)) reply trail') :
    reply.isOk = false ∧ trail'.cluster = trail.cluster ∧
      messages trail'.calls = messages trail.calls := by
  rw [Trail.Screens, if_neg fun h => unfit ((key.marker.acceptable_patch_iff ip).1 h)] at screens
  obtain ⟨hreply, rfl⟩ := screens
  refine ⟨hreply, rfl, ?_⟩
  rw [messages, List.filterMap_append]
  exact List.append_nil _

/-! ### Passes that cannot mark -/

structure Waits (key : ObjectKey) (providers : Shelf Provider) (cluster : Cluster) : Prop where
  kept : cluster.WellKept
  providers : cluster.providers = providers
  ready : ∃ stored, cluster.notifiers.get? key = some stored ∧ stored.statusOrInitial.isReady = true

def Along (providers : Shelf Provider) (_ : List (Provider × String)) (cluster : Cluster) : Prop :=
  cluster.WellKept ∧ cluster.providers = providers

theorem survives_along (told : List (Provider × String)) :
    Estate.Survives NotifierSpec NotifierStatus key (Along providers told) :=
  fun _ _ _ along _ own => ⟨along.1.putNotifier own, along.2⟩

theorem waits_of_ongoing (ongoing : Round.Ongoing key (Along providers) [] sent r trail)
    (ready : r.statusOrInitial.isReady = true) : Waits key providers trail.cluster := by
  obtain ⟨stored, found, -⟩ := id ongoing.holds
  obtain ⟨-, -, hstatus⟩ := ongoing.holds.agrees found
  exact ⟨ongoing.known.1, ongoing.known.2, stored, found, hstatus ▸ ready⟩

/-- How a pass ends that cannot mark: if something was due, then the first of it was announced, and the
pass has failed. -/
structure Ends (key : ObjectKey) (providers : Shelf Provider) (due : List (Provider × String))
    (outcome : Outcome) (trail : Trail δ κ) : Prop where
  waits : Waits key providers trail.cluster
  sent : messages trail.calls = delivered (due.take 1)
  fails : due ≠ [] → outcome.isOk = false

def rules (δ κ : Type) (key : ObjectKey) (providers : Shelf Provider)
    (due : List (Provider × String)) : Program.Rules (@Call.Reply δ κ) (Trail δ κ) where
  allows _ _ := True
  answers := Trail.Screens providers.values
  fails trail := ∀ failure, Ends key providers due (.error failure) trail

theorem admits (due : List (Provider × String)) :
    Round.Admits (rules δ κ key providers due) providers.values fun _ => .ok () where
  allows _ _ := trivial
  answers _ _ _ _ hcall screens :=
    relays_of_screens (fun provider patch h => absurd h (hcall provider patch)) screens

theorem keeps_announce (unfit : ¬IsAnnotationKey key.marker.key) (channel : κ)
    {entry : Provider × String} {rest : List (Provider × String)} (hdue : due = entry :: rest)
    (ready : r.statusOrInitial.isReady = true)
    (ongoing : Round.Ongoing key (Along providers) [] [] r trail) :
    (announce channel key.marker entry.1 entry.2 : Pass δ κ Notifier Unit).Keeps
      (rules δ κ key providers due) (fun _ _ _ => False) r trail := by
  refine Round.keeps_message (admits due) channel ongoing fun reply trail₁ hreply ongoing₁ => ?_
  subst hreply
  refine Keeps.bind ((Round.follows (admits due) (survives_along []) _).recordCondition _ _
    ongoing₁) ?_
  rintro _ r₂ trail₂ ⟨_, records, ongoing₂⟩
  have ready₂ : r₂.statusOrInitial.isReady = true := (Notifier.isReady_of_records records).trans ready
  refine keeps_ask_bind trivial fun reply trail₃ screens => ?_
  obtain ⟨hreply, hcluster, hsent⟩ := refused_of_screens unfit screens
  cases reply with
  | ok value => cases hreply
  | error refusal =>
    refine keeps_throw _ fun failure => ⟨?_, ?_, fun _ => rfl⟩
    · exact hcluster ▸ waits_of_ongoing ongoing₂ ready₂
    · rw [hsent, ongoing₂.sent, hdue]
      rfl

theorem keeps_announceAll (unfit : ¬IsAnnotationKey key.marker.key) (channel : κ)
    (listed : List Provider) (hdue : due = listed.filterMap fun provider =>
      (pending? key.marker provider).map fun ip => (provider, ip))
    (ready : r.statusOrInitial.isReady = true)
    (ongoing : Round.Ongoing key (Along providers) [] [] r trail) :
    (announceAll channel key.marker listed : Pass δ κ Notifier Unit).Keeps
      (rules δ κ key providers due)
      (fun _ r' trail' => due = [] ∧ r'.statusOrInitial.isReady = true ∧
        Round.Ongoing key (Along providers) [] [] r' trail') r trail := by
  induction listed with
  | nil => exact keeps_pure ⟨hdue, ready, ongoing⟩
  | cons provider rest ih =>
    rw [announceAll]
    cases hpending : pending? key.marker provider with
    | none =>
      simp only [List.filterMap_cons, hpending, Option.map_none] at hdue
      exact ih hdue
    | some ip =>
      simp only [List.filterMap_cons, hpending, Option.map_some] at hdue
      exact Keeps.bind_of_false (keeps_announce unfit channel hdue ready ongoing)

/-- A pass that cannot mark announces what is due first, and leaves the providers as they are. -/
theorem ends_of_yields (unfit : ¬IsAnnotationKey key.marker.key)
    (waits : Waits key providers cluster)
    (yields : (Pass.notifier key : Calling δ κ Outcome).Yields (Trail.Screens providers.values)
      ⟨cluster, []⟩ outcome trail) :
    Ends key providers (dueAmong key key.marker providers.values) outcome trail := by
  obtain ⟨kept, hproviders, stored, read, ready⟩ := waits
  let due := dueAmong key key.marker providers.values
  have obeys : (Pass.notifier key : Calling δ κ Outcome).Obeys (rules δ κ key providers due)
      (Ends key providers due) ⟨cluster, []⟩ := by
    refine ⟨trivial, fun reply trail₁ screens => ?_⟩
    obtain ⟨rfl, ongoing⟩ : reply = .ok (some stored) ∧
        Round.Ongoing key (Along providers) [] [] stored trail₁ :=
      Round.begins kept read ⟨kept, hproviders⟩ screens
    have keeps : (overNotifier key : Pass δ κ Notifier Next).Keeps (rules δ κ key providers due)
        (fun next _ trail' => Ends key providers due (.ok next) trail') stored trail₁ := by
      refine Round.keeps_overNotifier_of (admits due) (survives_along []) ready ongoing ?_
      intro channel r₂ trail₂ same₂ ongoing₂
      have ready₂ : r₂.statusOrInitial.isReady = true :=
        (Notifier.isReady_of_timeless same₂).trans ready
      refine Keeps.bind (keeps_announceAll unfit channel _ rfl ready₂ ongoing₂) ?_
      rintro _ r₃ trail₃ ⟨hnone, ready₃, ongoing₃⟩
      apply Keeps.mono (Round.keeps_note (admits due) (survives_along []) ongoing₃)
      rintro next r₄ trail₄ ⟨-, hr₄, ongoing₄⟩
      have ready₄ : r₄.statusOrInitial.isReady = true := by
        rw [hr₄]
        exact ready₃
      refine ⟨waits_of_ongoing ongoing₄ ready₄, ?_, fun h => absurd hnone h⟩
      rw [ongoing₄.sent, hnone]
      rfl
    exact keeps.obeys (fun _ _ _ ends => ends) fun failure _ ends => ends failure
  exact obeys.ends_of_yields yields

def Passes (δ κ : Type) (key : ObjectKey) (cluster cluster' : Cluster) : Prop :=
  ∃ outcome trail, (Pass.notifier key : Calling δ κ Outcome).Yields
    (Trail.Screens cluster.providers.values) ⟨cluster, []⟩ outcome trail ∧ trail.cluster = cluster'

theorem Waits.passes (unfit : ¬IsAnnotationKey key.marker.key) (waits : Waits key providers cluster)
    (passes : Relation.ReflTransGen (Passes δ κ key) cluster cluster') :
    Waits key providers cluster' := by
  induction passes with
  | refl => exact waits
  | tail _ last ih =>
    obtain ⟨outcome, trail, yields, rfl⟩ := last
    rw [ih.providers] at yields
    exact (ends_of_yields unfit ih yields).waits

end Refusal

open Refusal in
/-- The key of a marker is an annotation key if and only if the name and the namespace of the notifier
have at most 62 characters together. If they do, then a pass over a ready notifier announces all that is
due and marks it. If they do not, then each of the passes that follow one another delivers the same
announcement, of what is due first, and marks nothing; and it fails, unless nothing is due. -/
theorem marks_or_repeats {notifier : Notifier} {cluster : Cluster} (legal : notifier.key.Legal)
    (kept : cluster.WellKept) (read : cluster.notifiers.get? notifier.key = some notifier)
    (ready : notifier.statusOrInitial.isReady = true) :
    let key := notifier.key
    let due := dueAmong key key.marker cluster.providers.values
    (IsAnnotationKey (Marker.ofNotifier notifier).key ↔ key.name.length + key.ns.length ≤ 62) ∧
    (key.name.length + key.ns.length ≤ 62 → ∀ outcome (trail : Trail δ κ),
      (Pass.notifier key).Yields (Trail.Screens cluster.providers.values) ⟨cluster, []⟩ outcome trail →
        outcome = .ok .awaitChange ∧ messages trail.calls = delivered due ∧
          cluster.Marks key due trail.cluster) ∧
    (62 < key.name.length + key.ns.length →
      ∀ cluster', Relation.ReflTransGen (Passes δ κ key) cluster cluster' →
        ∀ outcome (trail : Trail δ κ), (Pass.notifier key).Yields
          (Trail.Screens cluster'.providers.values) ⟨cluster', []⟩ outcome trail →
            messages trail.calls = delivered (due.take 1) ∧
              (due ≠ [] → outcome.isOk = false) ∧ trail.cluster.providers = cluster.providers) := by
  intro key due
  have hkey : IsAnnotationKey key.marker.key ↔ key.name.length + key.ns.length ≤ 62 :=
    legal.isAnnotationKey_iff
  refine ⟨hkey, fun hfits outcome trail yields => ?_, fun hlong cluster' passes outcome trail yields => ?_⟩
  · have stored (provider : Provider) (h : provider ∈ cluster.providers.values) :
        (cluster.providers.get? provider.key).isSome = true := by
      rw [kept.providers.get?_of_mem_values h]
      rfl
    have leaves := Round.leaves_of_answers (fun trail call reply trail' hcall screens =>
      relays_of_screens (fun provider patch h => ?_) screens) kept read ready stored
      kept.providers.values_pairwise yields
    · exact ⟨leaves.outcome, leaves.sent, leaves.marks⟩
    · obtain ⟨ip, rfl⟩ := hcall provider patch h
      exact (key.marker.acceptable_patch_iff ip).2 (hkey.2 hfits)
  · have unfit : ¬IsAnnotationKey key.marker.key := fun h => absurd (hkey.1 h) (Nat.not_le.2 hlong)
    have waits : Waits key cluster.providers cluster' :=
      Waits.passes unfit ⟨kept, rfl, notifier, read, ready⟩ passes
    rw [waits.providers] at yields
    have ends := ends_of_yields unfit waits yields
    exact ⟨ends.sent, ends.fails, ends.waits.providers⟩

/-! ### A notifier with a long name -/

namespace Refusal

def screen (listed : List Provider) (call : Call Unit Unit) (trail : Trail Unit Unit) :
    call.Reply × Trail Unit Unit :=
  match call with
  | .patchProvider key patch =>
    if patch.Acceptable then Relay.relay listed (fun _ => .ok ()) (.patchProvider key patch) trail
    else
      let reply : Except Failure Unit := .error (.bare (.store "invalid annotation key"))
      (reply, ⟨trail.cluster, trail.calls ++ [⟨.patchProvider key patch, reply⟩]⟩)
  | call => Relay.relay listed (fun _ => .ok ()) call trail

theorem screens_screen (listed : List Provider) (call : Call Unit Unit) (trail : Trail Unit Unit) :
    trail.Screens listed call (screen listed call trail).1 (screen listed call trail).2 := by
  cases call with
  | patchProvider key patch =>
    rw [Trail.Screens, screen]
    split
    · exact Relay.relays_relay listed _ (.patchProvider key patch) trail
    · exact ⟨rfl, rfl⟩
  | _ => exact Relay.relays_relay listed (fun _ => .ok ()) _ trail

end Refusal

namespace Home

def longName : String := "notifications-for-the-platform-engineering-team-in-frankfurt"

def longHook : Notifier := { readyHook with metadata := metadata longName }

theorem legal_longHook : longHook.key.Legal :=
  ⟨by decide +kernel, by decide +kernel⟩

def longZone : Provider := { zone with spec := { zone.spec with notifierRefs := [⟨longName, none⟩] } }

def longCluster : Cluster :=
  { cluster with
    providers := [(key "zone", longZone)]
    notifiers := [(longHook.key, longHook)] }

theorem wellKept_longCluster : longCluster.WellKept := by
  refine ⟨⟨List.pairwise_singleton _ _, fun entry h => ?_⟩,
    ⟨List.pairwise_singleton _ _, fun entry h => ?_⟩, fun entry h => ?_⟩
  · rw [List.mem_singleton.1 h]
    rfl
  · rw [List.mem_singleton.1 h]
  · rw [List.mem_singleton.1 h]
    exact List.Pairwise.nil

def announceInVain (cluster : Cluster) : Outcome × Trail Unit Unit :=
  (Pass.notifier longHook.key).run (Refusal.screen cluster.providers.values) ⟨cluster, []⟩

theorem marks_or_repeats_at_home :
    let first := announceInVain longCluster
    let second := announceInVain first.2.cluster
    longHook.key.Legal ∧ longCluster.WellKept ∧ ¬IsAnnotationKey (Marker.ofNotifier longHook).key ∧
      messages first.2.calls ≠ [] ∧ messages second.2.calls = messages first.2.calls ∧
        first.1.isOk = false ∧ second.1.isOk = false ∧
          second.2.cluster.marked longHook.key (key "zone") = none := by
  intro first second
  have yields (cluster : Cluster) : (Pass.notifier longHook.key).Yields
      (Trail.Screens cluster.providers.values) ⟨cluster, []⟩ (announceInVain cluster).1
        (announceInVain cluster).2 :=
    Program.yields_run (Refusal.screens_screen cluster.providers.values) _ _
  have hlong : 62 < longHook.key.name.length + longHook.key.ns.length := by decide +kernel
  have hdue : dueAmong longHook.key longHook.key.marker longCluster.providers.values ≠ [] := by
    decide +kernel
  obtain ⟨fits, -, repeats⟩ :=
    @marks_or_repeats Unit Unit longHook longCluster legal_longHook wellKept_longCluster rfl rfl
  obtain ⟨hfirst, ffails, -⟩ := repeats hlong longCluster .refl first.1 first.2 (yields longCluster)
  have passes : Refusal.Passes Unit Unit longHook.key longCluster first.2.cluster :=
    ⟨first.1, first.2, yields longCluster, rfl⟩
  obtain ⟨hsecond, sfails, hproviders⟩ :=
    repeats hlong first.2.cluster (.single passes) second.1 second.2 (yields first.2.cluster)
  refine ⟨legal_longHook, wellKept_longCluster, fun h => absurd (fits.1 h) (Nat.not_le.2 hlong), ?_,
    hsecond.trans hfirst.symm, ffails hdue, sfails hdue, ?_⟩
  · rw [hfirst]
    decide +kernel
  · rw [Cluster.marked, hproviders]
    decide +kernel

/-- A notifier may be called so that the key of its marker is no annotation key. -/
theorem longHook_has_no_key :
    IsSubdomain longHook.key.name ∧ IsLabel longHook.key.ns ∧
      ¬IsAnnotationKey (Marker.ofNotifier longHook).key := by
  decide +kernel

end Home

end DynamicDns
