import DynamicDns.Proofs.Run.Chronicle
import DynamicDns.Proofs.Run.Customary
import DynamicDns.Proofs.Run.Rest

/-!
# One pass makes up for a failed one

A pass over a provider can fail at any of its calls, and leaves behind what it wrote until then: a
condition that does not hold, an address that is no longer served, or an address that was pushed but not
written. What it cannot do is to leave a ledger that is not customary, or change anything but the
status. That is all that the next pass needs: if nothing fails, it leaves the same provider that it
would have left without the failed pass before it, up to the times of its conditions
(`recovers_in_one_pass`).
-/

namespace DynamicDns

open Condition (Customary)
open Pass (Outcome Resembles)

variable {δ κ : Type} {scope : Option String} {key : ObjectKey}

/-! ### A pass on its own -/

namespace Scene

/-- What a pass can end with, it is taken to in its lane. -/
theorem exists_advances {lane : Lane} {program : Calling δ κ Outcome} {outcome : Outcome}
    {cluster' : Cluster} {scene : Scene δ κ} {past : List (Answered δ κ)}
    (hlane : scene.ongoing lane = some ⟨past, program⟩)
    (yields : program.Yields (Cluster.Answers scope) scene.cluster outcome cluster') :
    ∃ moves : List (Move δ κ), (∀ move ∈ moves, move.lane? = some lane) ∧
      (scene.play scope moves).cluster = cluster' := by
  induction program generalizing scene past with
  | done value =>
    obtain ⟨-, rfl⟩ := yields
    exact ⟨[], by simp, rfl⟩
  | call call next ih =>
    obtain ⟨reply, cluster, ⟨refusal, outside, hanswer⟩, yields⟩ := yields
    let next' : Scene δ κ := scene.step scope (.advance lane refusal outside)
    have hnext : next' = ⟨cluster,
        Function.update scene.ongoing lane (some ⟨⟨call, reply⟩ :: past, next reply⟩),
        ⟨lane, past, .answered ⟨call, reply⟩⟩ :: scene.log⟩ := by
      simp only [next', step, advance, hlane, hanswer]
    have hongoing : next'.ongoing lane = some ⟨⟨call, reply⟩ :: past, next reply⟩ := by
      rw [hnext]
      exact Function.update_self _ _ _
    have hcluster : next'.cluster = cluster := by rw [hnext]
    obtain ⟨moves, hmoves, hplay⟩ := ih reply hongoing (hcluster ▸ yields)
    exact ⟨_ :: moves, List.forall_mem_cons.2 ⟨rfl, hmoves⟩, hplay⟩

theorem exists_run {lane : Lane} {cluster cluster' : Cluster} {outcome : Outcome}
    (yields : (lane.pass : Calling δ κ Outcome).Yields (Cluster.Answers scope) cluster outcome
      cluster') :
    ∃ moves : List (Move δ κ), (∀ move ∈ moves, move.lane? = some lane) ∧
      ((Scene.initial cluster).play scope moves).cluster = cluster' := by
  let started : Scene δ κ := (Scene.initial cluster).step scope (.start lane)
  have hongoing : started.ongoing lane = some ⟨[], lane.pass⟩ := Function.update_self _ _ _
  obtain ⟨moves, hmoves, hplay⟩ := exists_advances hongoing yields
  exact ⟨.start lane :: moves, List.forall_mem_cons.2 ⟨rfl, hmoves⟩, hplay⟩

end Scene

/-! ### What no pass changes -/

/-- A lane of a provider writes nothing but a status. -/
theorem Cluster.Touched.resembles {cluster cluster' : Cluster} {other : ObjectKey} {number : Nat}
    {provider : Provider} (touched : cluster.Touched (.provider other number) cluster')
    (found : cluster.stored? key = some provider) :
    ∃ provider', cluster'.stored? key = some provider' ∧ Resembles provider provider' := by
  cases touched with
  | still => exact ⟨provider, found, rfl, rfl⟩
  | @providerStatus _ _ change _ h =>
    obtain ⟨before, after, hbefore, hpatched, rfl⟩ := patch_provider_eq_ok h
    rw [Resource.patched?_statusChange] at hpatched
    obtain ⟨status, -, rfl⟩ := Option.map_eq_some_iff.1 hpatched
    have hstored := cluster.stored?_store other key ({ before with status } : Provider)
    by_cases hkey : other = key
    · subst hkey
      obtain rfl : before = provider := Option.some.inj (hbefore.symm.trans found)
      exact ⟨_, hstored.trans (if_pos rfl), rfl, rfl⟩
    · exact ⟨provider, (hstored.trans (if_neg hkey)).trans found, rfl, rfl⟩

theorem Scene.Sound.resembles_play {scene : Scene δ κ} (sound : scene.Sound) {other : ObjectKey}
    {number : Nat} {moves : List (Move δ κ)}
    (hmoves : ∀ move ∈ moves, move.lane? = some (.provider other number)) {provider : Provider}
    (found : scene.cluster.stored? key = some provider) :
    ∃ r, (scene.play scope moves).cluster.stored? key = some r ∧ Resembles provider r := by
  have stays : (scene.play scope moves).Sound ∧
      ∃ r, (scene.play scope moves).cluster.stored? key = some r ∧ Resembles provider r := by
    apply play_induction (motive := fun scene => scene.Sound ∧
      ∃ r, scene.cluster.stored? key = some r ∧ Resembles provider r)
    · exact ⟨sound, provider, found, rfl, rfl⟩
    · intro scene move hmove ⟨sound, r, hstored, resembles⟩
      have hlane := hmoves move hmove
      have touched : scene.cluster.Touched _ (scene.step scope move).cluster :=
        sound.touched_step hlane
      obtain ⟨r', hstored', resembles'⟩ := touched.resembles hstored
      refine ⟨sound.step ?_, r', hstored', resembles.trans resembles'⟩
      exact (Move.respects_of_lane? id hlane).tidy
  exact stays.2

/-- A provider stands under its key as it once was, but for the status, and its ledger is customary. -/
structure Cluster.Retains (key : ObjectKey) (provider : Provider) (cluster : Cluster) : Prop where
  kept : cluster.WellKept
  stored : ∃ r, cluster.stored? key = some r ∧ Resembles provider r ∧ Customary r.conditions

namespace Cluster.Retains

variable {cluster cluster' origin : Cluster} {provider r : Provider} {moves : List (Move δ κ)}

theorem customary_play (kept : origin.WellKept) (inTurn : ∀ move ∈ moves, move.InTurn)
    (customary : ∀ conditions, origin.ledger ProviderStatus key = some conditions →
      Customary conditions)
    (found : ((Scene.initial origin).play scope moves).cluster.stored? key = some r) :
    Customary r.conditions := by
  have ledgered := Scene.Ledgered.initial (Provider.scribe δ κ key) scope kept
  apply ledgered.forall_play (Provider.scribe_alone scope key) inTurn Customary.edits customary
  exact Cluster.ledger_of_stored found

/-- A ledger that is empty at first is customary at all times. -/
theorem of_play (kept : origin.WellKept) (fresh : origin.standing ProviderStatus key = some none)
    (inTurn : ∀ move ∈ moves, move.InTurn)
    (found : ((Scene.initial origin).play scope moves).cluster.stored? key = some provider) :
    ((Scene.initial origin).play scope moves).cluster.Retains key provider := by
  have sound : ((Scene.initial origin).play scope moves).Sound :=
    Scene.sound_play kept fun move hmove => (inTurn move hmove).respects.tidy
  refine ⟨sound.kept, provider, found, ⟨rfl, rfl⟩, customary_play kept inTurn ?_ found⟩
  intro conditions hledger
  obtain ⟨r, hstored, hstatus⟩ := Option.map_eq_some_iff.1 fresh
  rw [Cluster.ledger_of_stored hstored, Resource.conditions, Resource.statusOrInitial, hstatus]
    at hledger
  rw [← Option.some.inj hledger]
  exact Condition.customary_nil

/-- Whatever a pass is answered, it keeps what it found but for the status, and the ledger customary. -/
theorem yields (retains : cluster.Retains key provider) {outcome : Outcome}
    (yields : (Pass.provider key : Calling δ κ Outcome).Yields (Cluster.Answers scope) cluster outcome
      cluster') : cluster'.Retains key provider := by
  obtain ⟨kept, r, found, resembles, customary⟩ := retains
  have pass : (Lane.pass (.provider key 0) : Calling δ κ Outcome).Yields (Cluster.Answers scope)
      cluster outcome cluster' := yields
  obtain ⟨moves, hmoves, rfl⟩ := Scene.exists_run pass
  have inTurn (move : Move δ κ) (hmove : move ∈ moves) : move.InTurn :=
    Move.inTurn_of_provider (hmoves move hmove)
  have sound : ((Scene.initial cluster).play scope moves).Sound :=
    Scene.sound_play kept fun move hmove => (inTurn move hmove).respects.tidy
  obtain ⟨r', found', resembles'⟩ : ∃ r',
      ((Scene.initial cluster).play scope moves).cluster.stored? key = some r' ∧ Resembles r r' :=
    (Scene.sound_initial kept).resembles_play hmoves found
  refine ⟨sound.kept, r', found', resembles.trans resembles', customary_play kept inTurn ?_ found'⟩
  intro conditions hledger
  rw [Cluster.ledger_of_stored found] at hledger
  rwa [← Option.some.inj hledger]

end Cluster.Retains

/-! ### Passes that can fail -/

namespace Estate

variable {world : Surroundings δ} {start estate estate' : Estate δ κ} {provider : Provider}

/-- How a call can be answered in a pass over an object that can fail. A call that fails has no effect,
and one that succeeds is answered as ever. -/
structure Falters (world : Surroundings δ) (key : ObjectKey) (estate : Estate δ κ) (call : Call δ κ)
    (reply : call.Reply) (estate' : Estate δ κ) : Prop where
  furnished : (⟨call, reply⟩ : Answered δ κ).succeeded = true →
    world.Furnishes key estate.accounts call reply
  answered : estate.cluster.Answers world.scope call reply estate'.cluster
  accounts : estate'.accounts = if (⟨call, reply⟩ : Answered δ κ).succeeded then
    world.pushed estate.accounts call else estate.accounts
  calls : estate'.calls = estate.calls ++ [⟨call, reply⟩]

/-- A pass where nothing fails is one that can fail. -/
theorem Serves.falters {call : Call δ κ} {reply : call.Reply}
    (serves : estate.Serves world key call reply estate') :
    estate.Falters world key call reply estate' := by
  obtain ⟨furnished, ⟨outside, hanswer⟩, haccounts, hcalls⟩ := serves
  refine ⟨fun _ => furnished, ⟨none, outside, hanswer⟩, haccounts.trans ?_, hcalls⟩
  cases call with
  | setIp client ip =>
    obtain rfl : reply = .ok () := furnished
    rfl
  | _ => exact (ite_self _).symm

/-- A pass where nothing fails leaves a settled provider, of which all is known but the times. -/
theorem Visits.timeless_eq (retains : start.cluster.Retains key provider)
    (visit : Visits world .provider key start estate) :
    (estate.cluster.stored? key).map Provider.timeless = some (provider.settledAt (world.ip key)) ∧
      estate.accounts key = world.ip key := by
  have upkept := visit.upkept retains.kept
  obtain ⟨outcome, pass⟩ := visit
  obtain ⟨kept, r, found, resembles, customary⟩ :=
    retains.yields (pass.map Estate.cluster fun _ _ _ _ serves => serves.falters.answered)
  obtain ⟨settled, served⟩ := upkept.upheld r found
  refine ⟨?_, served⟩
  rw [found, Option.map_some, settled.timeless_eq customary, Provider.settledAt_of_resembles resembles]

/-- A failed pass over a provider leaves no trace once a pass went through. The status of the provider
comes from earlier passes, whatever became of them, or there is none yet. A pass that fails wherever it
may, and then one where nothing fails, leave the same provider but for the times of its conditions as
the latter alone, and its account serves the public address. -/
theorem recovers_in_one_pass (world : Surroundings δ) {key : ObjectKey} {origin : Cluster}
    (kept : origin.WellKept) (fresh : origin.standing ProviderStatus key = some none)
    {earlier : List (Move δ κ)} (inTurn : ∀ move ∈ earlier, move.InTurn)
    {start failed retried clean : Estate δ κ}
    (history : start.cluster = ((Scene.initial origin).play world.scope earlier).cluster)
    {provider : Provider} (found : start.cluster.stored? key = some provider) {outcome : Outcome}
    (attempt : (Pass.provider key).Yields (Falters world key) start outcome failed)
    (retry : Visits world .provider key failed retried)
    (only : Visits world .provider key start clean) :
    (retried.cluster.stored? key).map Provider.timeless =
        (clean.cluster.stored? key).map Provider.timeless ∧
      retried.accounts key = world.ip key ∧
      (clean.cluster.stored? key).map Provider.timeless =
        some (provider.settledAt (world.ip key)) ∧
      clean.accounts key = world.ip key := by
  have retains : start.cluster.Retains key provider := by
    rw [history] at found ⊢
    exact .of_play kept fresh inTurn found
  have retains' : failed.cluster.Retains key provider :=
    retains.yields (attempt.map Estate.cluster fun _ _ _ _ falters => falters.answered)
  obtain ⟨hretried, hserved⟩ := retry.timeless_eq retains'
  obtain ⟨hclean, hserved'⟩ := only.timeless_eq retains
  exact ⟨hretried.trans hclean.symm, hserved, hclean, hserved'⟩

/-! ### An address that was pushed but not written -/

def refuse (world : Surroundings δ) (client : δ) (channel : κ)
    (refusal : Estate δ κ → Option Failure) (call : Call δ κ) (estate : Estate δ κ) :
    call.Reply × Estate δ κ :=
  let (reply, cluster) := estate.cluster.answer world.scope (refusal estate)
    (supply world client channel estate.accounts) call
  (reply, ⟨cluster, world.pushed estate.accounts call, estate.calls ++ [⟨call, reply⟩]⟩)

theorem falters_refuse (world : Surroundings δ) (client : δ) (channel : κ)
    (refusal : Estate δ κ → Option Failure) (call : Call δ κ) (estate : Estate δ κ) :
    estate.Falters world (world.owner client) call (refuse world client channel refusal call estate).1
      (refuse world client channel refusal call estate).2 := by
  refine ⟨fun _ => ?_, ⟨refusal estate, supply world client channel estate.accounts, rfl⟩, ?_, rfl⟩
  · cases call with
    | createClient => exact ⟨client, rfl, rfl⟩
    | createChannel => exact ⟨channel, rfl⟩
    | _ => trivial
  · cases call with
    | setIp => rfl
    | _ => exact (ite_self _).symm

end Estate

namespace Home

def newcomer : Cluster := { cluster with providers := [(Home.key "zone", { zone with status := none })] }

theorem wellKept_newcomer : newcomer.WellKept := by
  refine ⟨⟨List.pairwise_singleton _ _, ?_⟩, wellKept_cluster.notifiers, ?_⟩
  all_goals
    intro entry hentry
    rw [List.mem_singleton.1 hentry]
  · rfl
  · exact List.Pairwise.nil

def cutOff (estate : Estate Unit Unit) : Option Failure :=
  if estate.calls.any fun answered => answered.call.act? = some .setIp then
    some (.bare (.store "connection reset"))
  else none

end Home

/-- The address of a zone has moved since its first pass. A pass pushes the new one and is cut off before
it can write that. The next pass finds the address served, and writes it. -/
theorem Estate.recovers_in_one_pass_at_home :
    let zone := Home.key "zone"
    let world : Surroundings Unit := ⟨none, fun _ => "192.0.2.8", fun _ => zone⟩
    let earlier := Home.round "192.0.2.7" [] [.provider zone 0]
    let scene := (Scene.initial Home.newcomer).play none earlier
    let start : Estate Unit Unit := ⟨scene.cluster, fun _ => "192.0.2.7", []⟩
    let failed := ((Pass.provider zone).run (refuse world () () Home.cutOff) start).2
    let retried := ((Pass.provider zone).run (serve world () ()) failed).2
    let clean := ((Pass.provider zone).run (serve world () ()) start).2
    let address (estate : Estate Unit Unit) :=
      (estate.cluster.providers.get? zone).bind fun r => r.status.map (·.providerIp)
    (address start = some "192.0.2.7" ∧ address failed = some "192.0.2.7" ∧
      failed.accounts zone = "192.0.2.8") ∧
    (retried.cluster.stored? zone).map Provider.timeless =
        (clean.cluster.stored? zone).map Provider.timeless ∧
      retried.accounts zone = "192.0.2.8" ∧
      (clean.cluster.stored? zone).map Provider.timeless =
        some (Home.zone.settledAt "192.0.2.8") ∧
      clean.accounts zone = "192.0.2.8" := by
  intro zone world earlier scene start failed retried clean address
  have hlane (move : Move Unit Unit) (hmove : move ∈ earlier) :
      move.lane? = some (.provider zone 0) := by
    obtain ⟨lane, hlane, hmove'⟩ := Home.lane?_of_mem_round hmove
    rw [hmove', List.mem_singleton.1 hlane]
  have inTurn (move : Move Unit Unit) (hmove : move ∈ earlier) : move.InTurn :=
    Move.inTurn_of_provider (hlane move hmove)
  let before : Provider := { Home.zone with status := none }
  have hbefore : (Scene.initial Home.newcomer : Scene Unit Unit).cluster.stored? zone =
      some before := rfl
  obtain ⟨provider, found, resembles⟩ : ∃ r,
      ((Scene.initial Home.newcomer).play world.scope earlier).cluster.stored? zone = some r ∧
        Resembles before r :=
    (Scene.sound_initial Home.wellKept_newcomer).resembles_play hlane hbefore
  have history : start.cluster = ((Scene.initial Home.newcomer).play world.scope earlier).cluster := by
    simp only [start, scene, world]
  have attempt : (Pass.provider zone).Yields (Falters world zone) start _ failed :=
    Program.yields_run (falters_refuse world () () Home.cutOff) _ _
  have visit (estate : Estate Unit Unit) : Visits world .provider zone estate
      ((Pass.provider zone).run (serve world () ()) estate).2 :=
    ⟨_, Program.yields_run (serves_serve world () ()) _ _⟩
  have retry : Visits world .provider zone failed retried := visit failed
  have only : Visits world .provider zone start clean := visit start
  have fresh : Home.newcomer.standing ProviderStatus zone = some none := rfl
  have hzone : Provider.settledAt "192.0.2.8" provider = Provider.settledAt "192.0.2.8" Home.zone :=
    Provider.settledAt_of_resembles ⟨resembles.metadata, resembles.spec⟩
  rw [← history] at found
  have recovers := recovers_in_one_pass world Home.wellKept_newcomer fresh inTurn history found attempt
    retry only
  rw [hzone] at recovers
  refine ⟨?_, recovers⟩
  decide +kernel

end DynamicDns
