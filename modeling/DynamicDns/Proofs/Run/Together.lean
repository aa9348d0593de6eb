import DynamicDns.Proofs.Pass.Phase
import DynamicDns.Proofs.Run.Answer
import DynamicDns.Proofs.World.Contributions

/-!
# Writing a provider together

While a pass writes the status of a provider, others write their contributions to it after each of
the calls of the pass. How the pass is answered by the store, and what its patches make of the
provider, does not depend on what the others have written, nor theirs on what the pass has
(`exists_reply`). So the pass could have run among any other contributions, or among none, and
nothing that anyone has written is lost (`writers_keep_apart`).
-/

namespace DynamicDns

open Json
open Pass (Outcome Phase)

variable {δ κ : Type}

/-! ### Writing contributions -/

namespace Contribution

def write (key : ObjectKey) (cluster : Cluster) (contribution : Contribution) : Cluster :=
  match cluster.patch .provider key contribution.patch with
  | .ok cluster' => cluster'
  | .error _ => cluster

variable {key : ObjectKey} {cluster : Cluster} {provider : Provider}

theorem stored?_write (found : cluster.stored? key = some provider) (contribution : Contribution) :
    (contribution.write key cluster).stored? key = some (contribution.on provider) := by
  have hpatch : cluster.patch .provider key contribution.patch = _ := Cluster.patch_of_stored found _
  rw [← getD_patched?, write, hpatch]
  cases patched? provider contribution.patch with
  | none => exact found
  | some provider' => simp [Cluster.stored?_store]

theorem stored?_foldl_write (found : cluster.stored? key = some provider)
    (written : List Contribution) :
    (written.foldl (write key) cluster).stored? key = some (written.foldl on provider) := by
  induction written generalizing cluster provider with
  | nil => exact found
  | cons contribution written ih => exact ih (stored?_write found contribution)

/-- What is written after the first calls of a pass. -/
def upTo (schedule : Nat → List Contribution) (n : Nat) : List Contribution :=
  (List.range n).flatMap schedule

theorem upTo_succ (schedule : Nat → List Contribution) (n : Nat) :
    upTo schedule (n + 1) = upTo schedule n ++ schedule n := by
  simp [upTo, List.range_succ]

theorem upTo_nil (n : Nat) : upTo (fun _ => []) n = [] := by simp [upTo]

end Contribution

open Contribution (upTo)

/-- A call is answered, and then others write to the provider with a key what is due after as many
calls. -/
def Trail.Shares (scope : Option String) (key : ObjectKey) (schedule : Nat → List Contribution)
    (trail : Trail δ κ) (call : Call δ κ) (reply : call.Reply) (trail' : Trail δ κ) : Prop :=
  ∃ cluster, trail.cluster.Answers scope call reply cluster ∧
    trail' = ⟨(schedule trail.calls.length).foldl (Contribution.write key) cluster,
      trail.calls ++ [⟨call, reply⟩]⟩

def Trail.share (scope : Option String) (key : ObjectKey) (schedule : Nat → List Contribution)
    (refusal : Option Failure) (outside : (call : Call δ κ) → call.Reply) (call : Call δ κ)
    (trail : Trail δ κ) : call.Reply × Trail δ κ :=
  let (reply, cluster) := trail.cluster.answer scope refusal outside call
  (reply, ⟨(schedule trail.calls.length).foldl (Contribution.write key) cluster,
    trail.calls ++ [⟨call, reply⟩]⟩)

theorem Trail.shares_share (scope : Option String) (key : ObjectKey)
    (schedule : Nat → List Contribution) (refusal : Option Failure)
    (outside : (call : Call δ κ) → call.Reply) (call : Call δ κ) (trail : Trail δ κ) :
    trail.Shares scope key schedule call (trail.share scope key schedule refusal outside call).1
      (trail.share scope key schedule refusal outside call).2 :=
  ⟨_, ⟨refusal, outside, rfl⟩, rfl⟩

/-- A pass over the provider with a key runs to its end among the contributions of others. -/
def Pass.RunsAmong (scope : Option String) (key : ObjectKey) (schedule : Nat → List Contribution)
    (start : Cluster) (outcome : Outcome) (trail : Trail δ κ) : Prop :=
  (Pass.provider key : Calling δ κ Outcome).Yields (Trail.Shares scope key schedule) ⟨start, []⟩
    outcome trail

/-! ### What a pass writes -/

def Answered.on (provider : Provider) : Answered δ κ → Provider
  | ⟨.patchStatus _ _ patch, .ok ()⟩ =>
    { provider with status := ((patched? provider patch).getD provider).status }
  | _ => provider

def Call.Outward : Call δ κ → Prop
  | .getProvider _ | .listProviders | .getNotifier _ | .patchStatus _ _ _ | .patchProvider _ _ => False
  | _ => True

namespace Answered

theorem on_eq (provider : Provider) (answered : Answered δ κ) :
    ∃ status, on provider answered = { provider with status } := by
  rw [on.eq_def]
  split <;> exact ⟨_, rfl⟩

theorem foldl_on (provider : Provider) (calls : List (Answered δ κ)) :
    ∃ status, calls.foldl on provider = { provider with status } := by
  induction calls generalizing provider with
  | nil => exact ⟨provider.status, rfl⟩
  | cons answered calls ih =>
    obtain ⟨first, hfirst⟩ := on_eq provider answered
    obtain ⟨status, hstatus⟩ := ih (on provider answered)
    refine ⟨status, ?_⟩
    rw [List.foldl_cons, hstatus, hfirst]

theorem on_of_outward {call : Call δ κ} (outward : call.Outward) (provider : Provider)
    (reply : call.Reply) : on provider ⟨call, reply⟩ = provider := by
  cases call with
  | patchStatus => cases outward
  | _ => rfl

end Answered

theorem Call.Outward.answer {call : Call δ κ} (outward : call.Outward) (scope : Option String)
    (refusal : Option Failure) (outside : (call : Call δ κ) → call.Reply) (cluster : Cluster) :
    cluster.answer scope refusal outside call = (outside call, cluster) := by
  cases call with
  | getProvider | listProviders | getNotifier | patchStatus | patchProvider => cases outward
  | _ => rfl

/-- Once a pass has read its provider it does nothing to the store but to patch the status. -/
theorem Pass.Phase.outward_or_patches {key : ObjectKey} {phase : Phase δ} {call : Call δ κ}
    (begun : phase ≠ .opening) (own : ∀ provider, phase.provider? = some provider → provider.key = key)
    (allowed : phase.allows key call) :
    call.Outward ∨ ∃ change, call = .patchStatus .provider key (Json.object [("status", change)]) := by
  cases call with
  | getProvider k => exact absurd allowed.1 begun
  | patchStatus kind k patch =>
    obtain ⟨provider, hprovider, rfl, rfl, change, rfl⟩ := allowed
    rw [own provider hprovider]
    exact .inr ⟨change, rfl⟩
  | listProviders | getNotifier | patchProvider => cases allowed
  | _ => exact .inl trivial

/-- A pass does not go back to its opening, and keeps to the provider that it read. -/
theorem Pass.Phase.next_begun {phase : Phase δ} {call : Call δ κ} (begun : phase ≠ .opening)
    (reply : call.Reply) :
    phase.next call reply ≠ .opening ∧
      ∀ provider, (phase.next call reply).provider? = some provider →
        phase.provider? = some provider := by
  cases phase with
  | opening => exact absurd rfl begun
  | _ =>
    cases call <;> cases reply <;>
      simp [next, afterReading, afterDiscovery, afterUnlocking, afterEquipping, afterConnecting,
        afterComparing, afterPushing, provider?]

/-! ### Two runs side by side -/

namespace Contribution

variable {key : ObjectKey} {provider : Provider}

/-- How a pass is answered, and what its call makes of the provider, does not depend on what others
have written. -/
theorem exists_reply {call : Call δ κ}
    (h : call.Outward ∨ ∃ change, call = .patchStatus .provider key (Json.object [("status", change)]))
    (scope : Option String) (refusal : Option Failure) (outside : (call : Call δ κ) → call.Reply)
    (provider : Provider) :
    ∃ reply, ∀ (written : List Contribution) (cluster : Cluster),
      cluster.stored? key = some (written.foldl on provider) →
        ∃ cluster', cluster.answer scope refusal outside call = (reply, cluster') ∧
          cluster'.stored? key = some (written.foldl on (Answered.on provider ⟨call, reply⟩)) := by
  rcases h with outward | ⟨change, rfl⟩
  · refine ⟨outside call, fun written cluster found => ⟨cluster, ?_, ?_⟩⟩
    · exact outward.answer scope refusal outside cluster
    · rw [Answered.on_of_outward outward]
      exact found
  cases refusal with
  | some failure => exact ⟨.error failure, fun written cluster found => ⟨cluster, rfl, found⟩⟩
  | none =>
    -- The others have left the status alone, and the patch looks at nothing else.
    have hpatch (written : List Contribution) (cluster : Cluster)
        (found : cluster.stored? key = some (written.foldl on provider)) :
        cluster.patch .provider key (Json.object [("status", change)]) =
          match Resource.statusAfter? provider.status (some change) with
          | some status => .ok (cluster.store key { written.foldl on provider with status })
          | none => .error .malformed := by
      refine (Cluster.patch_of_stored found _).trans ?_
      rw [Resource.patched?_statusChange, (frame_foldl provider written).status]
      cases Resource.statusAfter? provider.status (some change) <;> rfl
    have hpatched := Resource.patched?_statusChange provider change
    cases hstatus : Resource.statusAfter? provider.status (some change) with
    | none =>
      refine ⟨.error (PatchError.malformed.failure .provider key), fun written cluster found => ?_⟩
      have hrefused := hpatch written cluster found
      rw [hstatus] at hrefused
      exact ⟨cluster, by simp [Cluster.answer, Cluster.patching, hrefused], found⟩
    | some status =>
      refine ⟨.ok (), fun written cluster found => ?_⟩
      have hstored := hpatch written cluster found
      rw [hstatus] at hstored hpatched
      refine ⟨cluster.store key { written.foldl on provider with status }, ?_, ?_⟩
      · simp [Cluster.answer, Cluster.patching, hstored]
      · rw [Cluster.stored?_store, if_pos rfl, Answered.on, hpatched, ← foldl_status]
        rfl

end Contribution

/-- What others have written is there, on top of what the pass has. -/
def Trail.Holds (key : ObjectKey) (provider : Provider) (schedule : Nat → List Contribution)
    (trail : Trail δ κ) : Prop :=
  trail.cluster.stored? key =
    some ((upTo schedule trail.calls.length).foldl Contribution.on
      (trail.calls.foldl Answered.on provider))

/-- Two passes are as far as each other, among different contributions. -/
structure Abreast (key : ObjectKey) (provider : Provider) (schedule schedule' : Nat → List Contribution)
    (phase : Phase δ) (trail trail' : Trail δ κ) : Prop where
  begun : phase ≠ .opening
  own : ∀ found, phase.provider? = some found → found.key = key
  calls : trail'.calls = trail.calls
  holds : trail.Holds key provider schedule
  holds' : trail'.Holds key provider schedule'

variable {scope : Option String} {key : ObjectKey} {provider : Provider}
  {schedule schedule' : Nat → List Contribution} {phase : Phase δ} {trail trail' : Trail δ κ}

/-- Once a call is answered, and the others have written, what they have written is there. -/
theorem Trail.Holds.continues (trail : Trail δ κ) {call : Call δ κ} {reply : call.Reply} {cluster : Cluster}
    (h : cluster.stored? key =
      some ((upTo schedule trail.calls.length).foldl Contribution.on
        (Answered.on (trail.calls.foldl Answered.on provider) ⟨call, reply⟩))) :
    Trail.Holds key provider schedule
      ⟨(schedule trail.calls.length).foldl (Contribution.write key) cluster,
        trail.calls ++ [⟨call, reply⟩]⟩ := by
  have hwritten := Contribution.stored?_foldl_write h (schedule trail.calls.length)
  simpa [Trail.Holds, Contribution.upTo_succ, List.foldl_append] using hwritten

/-- If one pass is answered so can the other be. -/
theorem Abreast.shares (abreast : Abreast key provider schedule schedule' phase trail trail')
    {call : Call δ κ} {reply : call.Reply} {next : Trail δ κ} (allowed : phase.allows key call)
    (shares : trail.Shares scope key schedule call reply next) :
    ∃ next', trail'.Shares scope key schedule' call reply next' ∧
      Abreast key provider schedule schedule' (phase.next call reply) next next' := by
  obtain ⟨begun, own, hcalls, holds, holds'⟩ := abreast
  obtain ⟨cluster, ⟨refusal, outside, hanswer⟩, rfl⟩ := shares
  obtain ⟨reply', same⟩ := Contribution.exists_reply (Phase.outward_or_patches begun own allowed)
    scope refusal outside (trail.calls.foldl Answered.on provider)
  obtain ⟨first, hfirst, found⟩ := same _ _ holds
  obtain ⟨rfl, rfl⟩ := Prod.mk.inj (hanswer.symm.trans hfirst)
  rw [Trail.Holds, hcalls] at holds'
  obtain ⟨second, hsecond, found'⟩ := same _ _ holds'
  rw [← hcalls] at found'
  refine ⟨_, ⟨second, ⟨refusal, outside, hsecond⟩, rfl⟩, ?_, ?_, ?_, ?_, ?_⟩
  · exact (phase.next_begun begun reply).1
  · intro other hother
    exact own other ((phase.next_begun begun reply).2 other hother)
  · simp [hcalls]
  · exact Trail.Holds.continues trail found
  · exact Trail.Holds.continues trail' found'

/-- Whatever the others write and whenever they do, a pass can be answered in the same way and end
in the same way, and what was written is there. -/
theorem Pass.exists_abreast {start : Cluster} (found : start.stored? key = some provider)
    (own : provider.key = key) {outcome : Outcome}
    (run : RunsAmong scope key schedule start outcome trail)
    (schedule' : Nat → List Contribution) :
    ∃ trail', RunsAmong scope key schedule' start outcome trail' ∧ trail'.calls = trail.calls ∧
      trail.Holds key provider schedule ∧ trail'.Holds key provider schedule' := by
  -- The pass reads the provider before anyone writes to it.
  obtain ⟨reply, first, ⟨cluster, ⟨refusal, outside, hanswer⟩, rfl⟩, rest⟩ := run
  obtain ⟨hreply, rfl⟩ := Prod.mk.inj hanswer
  have obeys := (provider_obeys (δ := δ) (κ := κ) key).2 reply _ rfl
  have holds (schedule : Nat → List Contribution) : Trail.Holds key provider schedule
      (⟨(schedule 0).foldl (Contribution.write key) start, [⟨.getProvider key, reply⟩]⟩ :
        Trail δ κ) := by
    apply Trail.Holds.continues ⟨start, []⟩
    exact found
  have begun : Abreast key provider schedule schedule' ((Phase.opening : Phase δ).afterReading reply)
      ⟨(schedule 0).foldl (Contribution.write key) start, [⟨.getProvider key, reply⟩]⟩
      (⟨(schedule' 0).foldl (Contribution.write key) start, [⟨.getProvider key, reply⟩]⟩ :
        Trail δ κ) := by
    refine ⟨?_, ?_, rfl, holds schedule, holds schedule'⟩
    · rcases reply with failure | _ | read <;> simp [Phase.afterReading]
    · intro read hread
      rcases reply with failure | _ | other
      · cases hread
      · cases hread
      · obtain rfl : other = read := Option.some.inj hread
        have hread := Cluster.eq_of_reading_eq_ok hreply
        rw [← own]
        exact congrArg Resource.key (Option.some.inj (hread.trans found))
  obtain ⟨phase, trail', -, run', abreast⟩ := obeys.parallel (Trail.Shares scope key schedule')
    (Abreast key provider schedule schedule')
    (fun phase trail trail' call reply next abreast allowed shares => by
      obtain ⟨next', shares', abreast'⟩ := abreast.shares allowed shares
      exact ⟨_, next', rfl, shares', abreast'⟩) begun rest
  refine ⟨trail', ⟨reply, _, ⟨start, ⟨refusal, outside, ?_⟩, rfl⟩, run'⟩, abreast.calls,
    abreast.holds, ?_⟩
  · exact congrArg (·, start) hreply
  · exact abreast.holds'

/-! ### Nothing is lost -/

/-- What each writer has written of a provider is there: the status that its pass left, the
specification that the edits leave, and for each notifier what it was last marked with. All else about
the provider is as it was. -/
structure KeptApart (provider left : Provider) (written : List Contribution) (stored : Provider) :
    Prop where
  status : stored.status = left.status
  spec : stored.spec = ((written.filter Contribution.isEdit).foldl Contribution.on provider).spec
  marks : ∀ notifier : ObjectKey, notifier.marker.Plain → ∀ ip,
    (written.filterMap (Contribution.markBy? notifier)).getLast? = some ip →
      stored.metadata.annotationList.lookup notifier.marker.key = some ip
  annotations : ∀ name,
    (∀ notifier ip, Contribution.mark notifier ip ∈ written → notifier.marker.key ≠ name) →
      stored.metadata.annotationList.lookup name = provider.metadata.annotationList.lookup name
  metadata : stored.metadata =
    { provider.metadata with
      generation := stored.metadata.generation, annotations := stored.metadata.annotations }

theorem keptApart_foldl (provider : Provider) (status : Option ProviderStatus)
    (written : List Contribution) :
    KeptApart provider { provider with status } written
      (written.foldl Contribution.on { provider with status }) := by
  have frame := Contribution.frame_foldl { provider with status } written
  refine ⟨frame.status, ?_, ?_, ?_, frame.metadata⟩
  · exact (Contribution.SameSpec.foldl (a := { provider with status }) (b := provider) ⟨rfl, rfl⟩
      written).1
  · intro notifier plain ip hlast
    rw [Contribution.lookup_foldl, Contribution.filterMap_textAt? plain, hlast]
    rfl
  · intro name hname
    have hnone : written.filterMap (Contribution.textAt? name) = [] := by
      rw [List.filterMap_eq_nil_iff]
      intro contribution hcontribution
      cases contribution with
      | edit change generation => rfl
      | mark notifier ip => simp [Contribution.textAt?, hname notifier ip hcontribution]
    simp [Contribution.lookup_foldl, hnone]

/-- Whoever writes a provider together, nobody loses what he wrote. While a pass patches its status,
notifiers mark it and users edit it, after any of the calls of the pass. Then its status is the one that
the same pass leaves if nobody else writes, its specification the one that the edits leave, each notifier
finds what it was last marked with, and all else is as it was. However the contributions had been spread
over the pass, it could have been answered in the same way; and if each writer wrote the same in the same
order, the provider is the same in the end. -/
theorem Pass.writers_keep_apart (scope : Option String) {key : ObjectKey} {start : Cluster}
    {provider : Provider} (found : start.stored? key = some provider) (own : provider.key = key)
    (ordered : provider.metadata.Ordered) (schedule : Nat → List Contribution) {outcome : Outcome}
    {trail : Trail δ κ} (run : RunsAmong scope key schedule start outcome trail) :
    let written := upTo schedule trail.calls.length
    ∃ left stored : Provider,
      (∃ alone, RunsAmong scope key (fun _ => []) start outcome alone ∧
        alone.calls = trail.calls ∧ alone.cluster.stored? key = some left) ∧
      trail.cluster.stored? key = some stored ∧ KeptApart provider left written stored ∧
      (∀ schedule', ∃ other, RunsAmong scope key schedule' start outcome other ∧
        other.calls = trail.calls) ∧
      ∀ schedule' outcome' other, RunsAmong scope key schedule' start outcome' other →
        other.calls = trail.calls → (∀ contribution ∈ written, contribution.Plain) →
          Contribution.Alike written (upTo schedule' other.calls.length) →
            other.cluster.stored? key = some stored := by
  intro written
  obtain ⟨status, hstatus⟩ := Answered.foldl_on provider trail.calls
  obtain ⟨alone, runAlone, hcalls, holds, left⟩ := exists_abreast found own run fun _ => []
  rw [Trail.Holds, hstatus] at holds
  rw [Trail.Holds, hcalls, hstatus, Contribution.upTo_nil] at left
  refine ⟨_, _, ⟨alone, runAlone, hcalls, left⟩, holds, keptApart_foldl provider status written,
    ?_, ?_⟩
  · intro schedule'
    obtain ⟨other, runOther, hcalls', -⟩ := exists_abreast found own run schedule'
    exact ⟨other, runOther, hcalls'⟩
  · intro schedule' outcome' other runOther hcalls' plain alike
    obtain ⟨-, -, -, holds', -⟩ := exists_abreast found own runOther schedule'
    rw [Trail.Holds, hcalls', hstatus] at holds'
    rw [hcalls'] at alike
    rw [holds', Contribution.foldl_eq_of_alike { provider with status } ordered alike plain]

/-- A hook marks a zone before and after a user edits it, while its pass is going on. -/
def Home.contributions : Nat → List Contribution
  | 1 => [.mark (Home.key "hook") "192.0.2.1"]
  | 4 => [.edit (Json.object [("retryInterval", ofInt64 300)]) 2]
  | 8 => [.mark (Home.key "hook") "192.0.2.7"]
  | _ => []

/-- The zone has what all of them wrote, and would have it if they had written at the outset. -/
theorem Pass.writers_keep_apart_at_home :
    let zone := Home.key "zone"
    let hook := Home.key "hook"
    let run := (Pass.provider zone).run
      (fun call (trail : Trail Unit Unit) =>
        trail.share none zone Home.contributions none (Home.outside "192.0.2.7" []) call)
      ⟨Home.cluster, []⟩
    let written := upTo Home.contributions run.2.calls.length
    let atOnce (n : Nat) : List Contribution := if n = 0 then written else []
    Home.cluster.stored? zone = some Home.zone ∧ Home.zone.key = zone ∧
      Home.zone.metadata.Ordered ∧ run.2.calls.length = 15 ∧
      RunsAmong none zone Home.contributions Home.cluster run.1 run.2 ∧
      ∃ left stored : Provider, run.2.cluster.stored? zone = some stored ∧
        KeptApart Home.zone left written stored ∧ left.statusOrInitial.providerIp = "192.0.2.7" ∧
        stored.spec.retryInterval = 300 ∧
        stored.metadata.annotationList.lookup hook.marker.key = some "192.0.2.7" ∧
        ∃ other : Trail Unit Unit, RunsAmong none zone atOnce Home.cluster run.1 other ∧
          other.cluster.stored? zone = some stored := by
  intro zone hook run written atOnce
  have found : Home.cluster.stored? zone = some Home.zone := rfl
  have own : Home.zone.key = zone := rfl
  have ordered : Home.zone.metadata.Ordered := List.Pairwise.nil
  have runs : RunsAmong none zone Home.contributions Home.cluster run.1 run.2 :=
    Program.yields_run (fun call trail => Trail.shares_share none zone Home.contributions none
      (Home.outside "192.0.2.7" []) call trail) _ _
  have seen : run.2.calls.length = 15 ∧ (run.2.cluster.stored? zone : Option Provider).map
      (fun stored => (stored.statusOrInitial.providerIp, stored.spec.retryInterval,
        stored.metadata.annotationList.lookup hook.marker.key)) =
          some ("192.0.2.7", 300, some "192.0.2.7") := by
    decide +kernel
  obtain ⟨hlength, hstored⟩ := seen
  obtain ⟨left, stored, -, holds, apart, spread, same⟩ :=
    writers_keep_apart none found own ordered Home.contributions runs
  rw [holds, Option.map_some, Option.some.injEq, Prod.mk.injEq, Prod.mk.injEq] at hstored
  obtain ⟨hstatus, hspec, hmark⟩ := hstored
  obtain ⟨other, runsOther, hcalls⟩ := spread atOnce
  refine ⟨found, own, ordered, hlength, runs, left, stored, holds, apart, ?_, hspec, hmark, other,
    runsOther, ?_⟩
  · rw [Resource.statusOrInitial, ← apart.status]
    exact hstatus
  · have hwritten : written = [.mark hook "192.0.2.1",
        .edit (Json.object [("retryInterval", ofInt64 300)]) 2, .mark hook "192.0.2.7"] :=
      congrArg (upTo Home.contributions) hlength
    have honce : upTo atOnce other.calls.length = written := by
      rw [hcalls, hlength]
      simp [upTo, List.range_succ, atOnce]
    apply same atOnce run.1 other runsOther hcalls
    · change ∀ contribution ∈ written, contribution.Plain
      have plain : hook.marker.Plain := ⟨⟨by decide, by decide, by decide⟩, by decide⟩
      intro contribution hcontribution
      simp only [hwritten, List.mem_cons, List.not_mem_nil, or_false] at hcontribution
      rcases hcontribution with rfl | rfl | rfl
      · exact plain
      · trivial
      · exact plain
    · rw [honce]
      exact ⟨rfl, fun _ => rfl⟩

end DynamicDns
