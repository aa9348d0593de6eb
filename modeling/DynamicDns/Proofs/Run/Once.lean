import DynamicDns.Proofs.Run.Deliveries
import Mathlib.Data.List.Chain

/-!
# Each change is announced once

Where the store never fails, the marker of a provider is the last address that was delivered, but
between a delivery and the writing of its marker. A listing is taken outside of that time, so what
it makes due is not what was delivered last, and stays so until its turn, since only one pass at a
time delivers to a notifier. So no address is delivered twice in a row.
-/

namespace DynamicDns

open Pass (Outcome Stage dueAmong pending?)

variable {δ κ : Type}

/-- Not a call to the store that failed; calls to anything else may fail. -/
def Event.served : Event δ κ → Bool
  | .answered ⟨.getProvider _, reply⟩ => reply.isOk
  | .answered ⟨.listProviders, reply⟩ => reply.isOk
  | .answered ⟨.getNotifier _, reply⟩ => reply.isOk
  | .answered ⟨.patchStatus _ _ _, reply⟩ => reply.isOk
  | .answered ⟨.patchProvider _ _, reply⟩ => reply.isOk
  | _ => true

def Scene.Served (scene : Scene δ κ) : Prop := ∀ entry ∈ scene.log, entry.event.served = true

def Fresh (provider : ObjectKey) (last : Option String) (due : List (Provider × String)) : Prop :=
  ∀ next ∈ due, next.1.key = provider → last ≠ some next.2

def Pass.Stage.Matches (provider : ObjectKey) (marked last : Option String) : Stage → Prop
  | .announcing _ _ due => marked = last ∧ Fresh provider last due
  | .owing _ _ owed ip due =>
    (owed.key = provider → last = some ip ∧ ∀ next ∈ due, next.1.key ≠ provider) ∧
      (owed.key ≠ provider → marked = last ∧ Fresh provider last due)
  | _ => marked = last

structure Scene.Matched (notifier provider : ObjectKey) (scene : Scene δ κ) : Prop where
  chain : (deliveries notifier provider scene.log).IsChain (· ≠ ·)
  idle : scene.ongoing (.notifier notifier) = none → scene.cluster.marked notifier provider =
    (deliveries notifier provider scene.log).head?
  stages : ∀ ongoing, scene.ongoing (.notifier notifier) = some ongoing →
    (Stage.of notifier ongoing.past).Matches provider (scene.cluster.marked notifier provider)
      (deliveries notifier provider scene.log).head?

variable {scope : Option String} {refusal : Option Failure}
  {outside : (call : Call δ κ) → call.Reply} {notifier provider : ObjectKey}
  {scene scene' : Scene δ κ}

theorem Scene.Served.of_cons {entry : Entry δ κ} (served : scene'.Served)
    (hlog : scene'.log = entry :: scene.log) : scene.Served :=
  fun other hother => served other (hlog ▸ List.mem_cons_of_mem _ hother)

/-! ### One call -/

theorem Scene.Matched.keep (matched : scene.Matched notifier provider) {ongoing : Ongoing δ κ}
    (hmarked : scene'.cluster.marked notifier provider = scene.cluster.marked notifier provider)
    (hdeliveries : deliveries notifier provider scene'.log =
      deliveries notifier provider scene.log)
    (hongoing : scene'.ongoing (.notifier notifier) = some ongoing)
    (h : (Stage.of notifier ongoing.past).Matches provider (scene.cluster.marked notifier provider)
      (deliveries notifier provider scene.log).head?) : scene'.Matched notifier provider := by
  refine ⟨hdeliveries ▸ matched.chain, fun hnone => ?_, fun other hother => ?_⟩
  · rw [hongoing] at hnone
    cases hnone
  · rw [hongoing] at hother
    cases hother
    rw [hmarked, hdeliveries]
    exact h

theorem Scene.Matched.mark (sound : scene.Sound) (plain : notifier.marker.Plain)
    (matched : scene.Matched notifier provider) {past : List (Answered δ κ)} {key : ObjectKey}
    {patch : Json} {next : Except Failure Unit → Calling δ κ Outcome} {reply : Except Failure Unit}
    (hanswer : scene.cluster.patching refusal .provider key patch = (reply, scene'.cluster))
    (hbefore : scene.ongoing (.notifier notifier) = some ⟨past, .call (.patchProvider key patch) next⟩)
    (hongoing : scene'.ongoing (.notifier notifier) =
      some ⟨⟨.patchProvider key patch, reply⟩ :: past, next reply⟩)
    (hlog : scene'.log = ⟨.notifier notifier, past, .answered ⟨.patchProvider key patch, reply⟩⟩ ::
      scene.log) (served : scene'.Served) : scene'.Matched notifier provider := by
  have hdeliveries : deliveries notifier provider scene'.log =
      deliveries notifier provider scene.log := by
    rw [hlog, deliveries_cons_of_none rfl]
  rcases sound.mark_cases plain hbefore hanswer with
    ⟨failure, rfl, -⟩ | ⟨rfl, found, listed, owed, ip, due, hstage, hmarked⟩
  · have hserved := served _ (hlog ▸ List.mem_cons_self)
    cases hserved
  · have hmatches : (Stage.of notifier past).Matches _ _ _ := matched.stages _ hbefore
    rw [hstage] at hmatches
    refine ⟨hdeliveries ▸ matched.chain, fun hnone => ?_, fun other hother => ?_⟩
    · rw [hongoing] at hnone
      cases hnone
    · rw [hongoing] at hother
      cases hother
      change ((Stage.of notifier past).afterMarking true).Matches _ _ _
      rw [hstage, hmarked, hdeliveries]
      by_cases hkey : owed.key = provider
      · obtain ⟨hlast, hothers⟩ := hmatches.1 hkey
        rw [if_pos hkey]
        exact ⟨hlast.symm, fun next hnext h => absurd h (hothers next hnext)⟩
      · rw [if_neg hkey]
        exact hmatches.2 hkey

/-- An announcement is not of what was delivered last, and nothing else is due for its provider. -/
theorem Scene.Matched.notify (sound : scene.Sound) (matched : scene.Matched notifier provider)
    {past : List (Answered δ κ)} {channel : κ} {message : String} {found : Notifier}
    {listed : List Provider} {owed : Provider} {ip : String} {due : List (Provider × String)}
    {next : Except ChannelError Unit → Calling δ κ Outcome} {rest : Calling δ κ Outcome}
    (hcluster : scene'.cluster = scene.cluster)
    (hbefore : scene.ongoing (.notifier notifier) = some ⟨past, .call (.notify channel message) next⟩)
    (hstage : Stage.of notifier past = .announcing found listed ((owed, ip) :: due))
    (hongoing : scene'.ongoing (.notifier notifier) =
      some ⟨⟨.notify channel message, .ok ()⟩ :: past, rest⟩)
    (hlog : scene'.log = ⟨.notifier notifier, past, .answered ⟨.notify channel message, .ok ()⟩⟩ ::
      scene.log) : scene'.Matched notifier provider := by
  have lawful : Ongoing.Lawful notifier _ := sound.fits (.notifier notifier) _ hbefore
  have told := Stage.tells lawful.lawful
  have hmatches : (Stage.of notifier past).Matches _ _ _ := matched.stages _ hbefore
  rw [hstage] at told hmatches
  obtain ⟨hmarked, hfresh⟩ := hmatches
  have hothers : ∀ x ∈ due, owed.key ≠ x.1.key := by
    have hlisted : listed.Pairwise fun a b => a.key ≠ b.key :=
      lawful.apart listed (listed_of_tells told).1
    have hdue : ((owed, ip) :: due).Pairwise fun a b => a.1.key ≠ b.1.key :=
      (dueAmong_pairwise hlisted).sublist told.2.2.2.2.2.sublist
    exact (List.pairwise_cons.1 hdue).1
  have hdeliveries : deliveries notifier provider scene'.log =
      if owed.key = provider then ip :: deliveries notifier provider scene.log
      else deliveries notifier provider scene.log := by
    rw [hlog]
    exact deliveries_cons_of_notify hstage
  by_cases hkey : owed.key = provider
  · rw [if_pos hkey] at hdeliveries
    have hlast := hfresh (owed, ip) List.mem_cons_self hkey
    refine ⟨?_, fun hnone => ?_, fun other hother => ?_⟩
    · rw [hdeliveries, List.isChain_cons]
      refine ⟨fun address haddress heq => ?_, matched.chain⟩
      exact hlast (heq ▸ haddress)
    · rw [hongoing] at hnone
      cases hnone
    · rw [hongoing] at hother
      cases hother
      change ((Stage.of notifier past).afterNotifying true).Matches _ _ _
      rw [hstage, hdeliveries]
      exact ⟨fun _ => ⟨rfl, fun next hnext h => hothers next hnext (hkey.trans h.symm)⟩,
        fun h => absurd hkey h⟩
  · rw [if_neg hkey] at hdeliveries
    refine matched.keep (by rw [hcluster]) hdeliveries hongoing ?_
    change ((Stage.of notifier past).afterNotifying true).Matches _ _ _
    rw [hstage]
    exact ⟨fun h => absurd h hkey,
      fun _ => ⟨hmarked, fun next hnext => hfresh next (List.mem_cons_of_mem _ hnext)⟩⟩

theorem Pass.Stage.Matches.write {stage : Stage} {marked last : Option String}
    (matches' : stage.Matches provider marked last) :
    (stage.afterWriting true).Matches provider marked last := by
  cases stage with
  | greeted reader delivered => cases delivered <;> exact matches'
  | _ => exact matches'

/-- What a listing makes due is not what was delivered last. -/
theorem Scene.Sound.fresh (sound : scene.Sound) {found : Notifier} (hkey : found.key = notifier)
    {listed : List Provider}
    (hanswer : (scene.cluster.answer scope refusal outside .listProviders).1 = .ok listed) :
    Fresh provider (scene.cluster.marked notifier provider)
      (dueAmong notifier (Marker.ofNotifier found) listed) := by
  intro (next, ip) hnext hprovider
  obtain ⟨hlisted, -, hpending⟩ := mem_dueAmong hnext
  rw [← hprovider, sound.marked_of_listing hanswer hlisted, ← Marker.ofNotifier_eq hkey]
  exact (pending?_eq_some hpending).2

theorem Scene.Matched.call (sound : scene.Sound) (plain : notifier.marker.Plain)
    (matched : scene.Matched notifier provider) {past : List (Answered δ κ)} {call : Call δ κ}
    {next : call.Reply → Calling δ κ Outcome} {reply : call.Reply}
    (hanswer : scene.cluster.answer scope refusal outside call = (reply, scene'.cluster))
    (hbefore : scene.ongoing (.notifier notifier) = some ⟨past, .call call next⟩)
    (hongoing : scene'.ongoing (.notifier notifier) = some ⟨⟨call, reply⟩ :: past, next reply⟩)
    (hlog : scene'.log = ⟨.notifier notifier, past, .answered ⟨call, reply⟩⟩ :: scene.log)
    (served : scene'.Served) : scene'.Matched notifier provider := by
  by_cases hmarks : ∃ key patch, call = .patchProvider key patch
  · obtain ⟨key, patch, rfl⟩ := hmarks
    exact matched.mark sound plain hanswer hbefore hongoing hlog served
  have hcall : ∀ key patch, call ≠ .patchProvider key patch := fun key patch h => hmarks ⟨key, patch, h⟩
  have hmarked := congrFun (congrFun (sound.marked_of_answer hbefore hcall hanswer) notifier) provider
  have lawful : Ongoing.Lawful notifier _ := sound.fits (.notifier notifier) _ hbefore
  have hmatches : (Stage.of notifier past).Matches _ _ _ := matched.stages _ hbefore
  have allowed := lawful.obeys.1
  have hkeep (hdelivery : (⟨.notifier notifier, past, .answered ⟨call, reply⟩⟩ :
        Entry δ κ).delivery? notifier provider = none)
      (h : ((Stage.of notifier past).next notifier call reply).Matches provider
        (scene.cluster.marked notifier provider) (deliveries notifier provider scene.log).head?) :
      scene'.Matched notifier provider := by
    refine matched.keep hmarked ?_ hongoing h
    rw [hlog, deliveries_cons_of_none hdelivery]
  cases call with
  | patchProvider key patch => exact absurd rfl (hcall key patch)
  | notify channel message =>
    obtain ⟨owed, ip, hnext, -⟩ := allowed
    obtain ⟨found, listed, due, hstage⟩ := Stage.announces?_eq_some hnext
    obtain ⟨-, hcluster⟩ := Prod.mk.inj hanswer
    cases reply with
    | ok value => exact matched.notify sound hcluster.symm hbefore hstage hongoing hlog
    | error e =>
      refine hkeep rfl ?_
      rw [hstage] at hmatches ⊢
      exact hmatches.1
  | listProviders =>
    obtain ⟨found, hstage, -⟩ := allowed
    refine hkeep rfl ?_
    rw [hstage] at hmatches ⊢
    cases reply with
    | error failure => exact hmatches
    | ok listed =>
      have hkey := lawful.key_of_writes? (congrArg Stage.writes? hstage)
      refine ⟨hmatches, ?_⟩
      rw [← hmatches]
      exact sound.fresh hkey (congrArg Prod.fst hanswer)
  | getNotifier key =>
    obtain ⟨hstage, -⟩ := allowed
    refine hkeep rfl ?_
    rw [hstage] at hmatches ⊢
    rcases reply with failure | _ | found <;> exact hmatches
  | greet channel =>
    obtain ⟨found, hstage, -⟩ := allowed
    refine hkeep rfl ?_
    rw [hstage] at hmatches ⊢
    exact hmatches
  | patchStatus kind key patch =>
    cases reply with
    | error failure =>
      have hserved := served _ (hlog ▸ List.mem_cons_self)
      cases hserved
    | ok value => exact hkeep rfl hmatches.write
  | getSecret | getConfigMap | createChannel | now | elapsed | record => exact hkeep rfl hmatches
  | getProvider | publicIp | createClient | getIp | setIp => cases allowed

/-! ### Every run -/

theorem Pass.Stage.Matches.of_owes? {stage : Stage} {marked last : Option String}
    (matches' : stage.Matches provider marked last) (h : stage.owes? = none) : marked = last := by
  cases stage with
  | owing => cases h
  | announcing => exact matches'.1
  | _ => exact matches'

theorem Pass.Stage.owes?_of_ends {stage : Stage} {outcome : Outcome} (ends : Ends outcome stage) :
    stage.owes? = none := by
  rcases outcome with e | _ | seconds
  · exact ends
  · rcases ends with rfl | ⟨reader, listed, rfl⟩ <;> rfl
  · obtain ⟨-, reader, rfl⟩ := ends
    rfl

theorem Scene.Matched.step (sound : scene.Sound) (plain : notifier.marker.Plain)
    (h : scene.Served → scene.Matched notifier provider) {move : Move δ κ}
    (respects : move.Respects (·.marked notifier provider))
    (served : (scene.step scope move).Served) :
    (scene.step scope move).Matched notifier provider := by
  have hprivate (lane : Lane) (cluster' : Cluster) (hlane : lane ≠ .notifier notifier)
      (touched : scene.cluster.Touched lane cluster') :
      cluster'.marked notifier provider = scene.cluster.marked notifier provider :=
    congrFun (sound.marked_private plain lane cluster' hlane touched) provider
  cases sound.change (fun lane cluster' _ => hprivate lane cluster') respects with
  | aside hview hongoing hlog =>
    have hdeliveries : deliveries notifier provider (scene.step scope move).log =
        deliveries notifier provider scene.log :=
      Scene.filterMap_log_of_aside (fun entry => Entry.delivery?_eq_none) hlog
    have hserved : scene.Served := by
      rcases hlog with hlog | ⟨entry, -, hlog⟩
      · exact fun entry hentry => served entry (hlog ▸ hentry)
      · exact served.of_cons hlog
    obtain ⟨chain, idle, stages⟩ := h hserved
    refine ⟨hdeliveries ▸ chain, fun hnone => ?_, fun ongoing hsome => ?_⟩
    · rw [hview, hdeliveries]
      exact idle (hongoing.symm.trans hnone)
    · rw [hview, hdeliveries]
      exact stages ongoing (hongoing.symm.trans hsome)
  | started hcluster hlog hidle hongoing =>
    have matched := h fun entry hentry => served entry (hlog ▸ hentry)
    refine matched.keep (by rw [hcluster]) (by rw [hlog]) hongoing ?_
    exact matched.idle hidle
  | ended past outcome hcluster hbefore hongoing hlog =>
    have hdeliveries : deliveries notifier provider (scene.step scope move).log =
        deliveries notifier provider scene.log := by
      rw [hlog, deliveries_cons_of_none rfl]
    have matched := h (served.of_cons hlog)
    have lawful : Ongoing.Lawful notifier _ := sound.fits (.notifier notifier) _ hbefore
    have hmatches : (Stage.of notifier past).Matches _ _ _ := matched.stages _ hbefore
    refine ⟨hdeliveries ▸ matched.chain, fun _ => ?_, fun ongoing hsome => ?_⟩
    · rw [hcluster, hdeliveries]
      exact hmatches.of_owes? (Stage.owes?_of_ends lawful.obeys)
    · rw [hongoing] at hsome
      cases hsome
  | called past call next reply refusal outside hanswer hbefore hongoing hlog =>
    exact (h (served.of_cons hlog)).call sound plain hanswer hbefore hongoing hlog served

end DynamicDns
