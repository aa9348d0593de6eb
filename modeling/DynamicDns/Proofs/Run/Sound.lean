import DynamicDns.Proofs.Run.Scene

/-!
# What one move can do

Every pass in a scene keeps to its stages or phases, and the cluster stays well kept. So of one lane
a move can only be one of four things: it happens aside, or it starts, continues or ends the pass in
that lane; and what happens aside leaves alone what only that lane writes.
-/

namespace DynamicDns

open Pass (Outcome Stage Phase)

variable {δ κ : Type}

/-! ### What a lane writes -/

inductive Cluster.Touched (cluster : Cluster) : Lane → Cluster → Prop where
  | still (lane : Lane) : Touched cluster lane cluster
  | providerStatus {key : ObjectKey} {number : Nat} {change : Json} {cluster' : Cluster}
      (h : cluster.patch .provider key (Json.object [("status", change)]) = .ok cluster') :
      Touched cluster (.provider key number) cluster'
  | notifierStatus {key : ObjectKey} {before : Option NotifierStatus} {after : NotifierStatus}
      {cluster' : Cluster}
      (h : cluster.patch .notifier key (Pass.statusPatch before after) = .ok cluster') :
      Touched cluster (.notifier key) cluster'
  | marker {key k : ObjectKey} {ip : String} {cluster' : Cluster}
      (h : cluster.patch .provider k (key.marker.patch ip) = .ok cluster') :
      Touched cluster (.notifier key) cluster'

namespace Cluster.Touched

variable {cluster cluster' : Cluster} {lane : Lane}

theorem wellKept (touched : cluster.Touched lane cluster') (kept : cluster.WellKept) :
    cluster'.WellKept := by
  cases touched with
  | still => exact kept
  | providerStatus h => exact (patch_providerStatus kept h).1
  | notifierStatus h => exact (patch_notifierStatus kept h).1
  | marker h => exact (patch_marker kept h).1

theorem isReady_eq (touched : cluster.Touched lane cluster') (kept : cluster.WellKept)
    {notifier : ObjectKey} (hlane : lane ≠ .notifier notifier) :
    cluster'.isReady notifier = cluster.isReady notifier := by
  cases touched with
  | still => rfl
  | providerStatus h => rw [(patch_providerStatus kept h).2.2]
  | notifierStatus h =>
    rw [(patch_notifierStatus kept h).2.2, if_neg fun h => hlane (congrArg _ h.1)]
  | marker h => rw [(patch_marker kept h).2.1]

theorem marked_eq (touched : cluster.Touched lane cluster') (kept : cluster.WellKept)
    {notifier : ObjectKey} (plain : notifier.marker.Plain) (hlane : lane ≠ .notifier notifier) :
    cluster'.marked notifier = cluster.marked notifier := by
  cases touched with
  | still => rfl
  | providerStatus h => rw [(patch_providerStatus kept h).2.1]
  | notifierStatus h => rw [(patch_notifierStatus kept h).2.1]
  | marker h =>
    funext other
    rw [(patch_marker kept h).2.2 notifier plain,
      if_neg fun h => hlane (congrArg _ (ObjectKey.eq_of_marker_eq h.2))]

end Cluster.Touched

/-! ### Passes that keep to their rules -/

/-- The pass in the lane of a notifier keeps to its stages, read the notifier of that lane, and listed
no provider twice. -/
structure Ongoing.Lawful (key : ObjectKey) (ongoing : Ongoing δ κ) : Prop where
  lawful : Stage.Lawful key ongoing.past
  own : ∀ notifier, .ok (some notifier) ∈ Pass.readings ongoing.past → notifier.key = key
  apart : ∀ listed, .ok listed ∈ Pass.listings ongoing.past →
    listed.Pairwise fun a b => a.key ≠ b.key
  obeys : ongoing.rest.Obeys (Stage.rules δ κ key) Stage.Ends (Stage.of key ongoing.past)

theorem Ongoing.Lawful.key_of_writes? {key : ObjectKey} {ongoing : Ongoing δ κ}
    (h : ongoing.Lawful key) {notifier : Notifier} {old new : Bool}
    (hwrites : (Stage.of key ongoing.past).writes? = some (notifier, old, new)) :
    notifier.key = key := by
  apply h.own
  rw [Stage.reads_of_writes? (Stage.tells h.lawful) hwrites]
  exact List.mem_cons_self

theorem Ongoing.Lawful.key_of_owes? {key : ObjectKey} {ongoing : Ongoing δ κ}
    (h : ongoing.Lawful key) {notifier : Notifier} {provider : Provider} {ip : String}
    (howes : (Stage.of key ongoing.past).owes? = some (notifier, provider, ip)) :
    notifier.key = key := by
  apply h.own
  rw [Stage.reads_of_owes? (Stage.tells h.lawful) howes]
  exact List.mem_cons_self

def Ongoing.Fits (ongoing : Ongoing δ κ) : Lane → Prop
  | .notifier key => ongoing.Lawful key
  | .provider key _ => ∃ phase, (∀ provider, phase.provider? = some provider → provider.key = key) ∧
      ongoing.rest.Obeys (Phase.rules δ κ key) Phase.Ends phase

def Entry.Recorded (entry : Entry δ κ) : Prop :=
  ∀ key, entry.lane = .notifier key → ∀ answered, entry.event = .answered answered →
    Stage.Lawful key (answered :: entry.past)

structure Scene.Sound (scene : Scene δ κ) : Prop where
  kept : scene.cluster.WellKept
  fits : ∀ lane ongoing, scene.ongoing lane = some ongoing → ongoing.Fits lane
  recorded : ∀ entry ∈ scene.log, entry.Recorded

variable {scope : Option String} {refusal : Option Failure}
  {outside : (call : Call δ κ) → call.Reply} {scene : Scene δ κ}

theorem Cluster.patching_touched {cluster : Cluster} {lane : Lane} {kind : Kind} {key : ObjectKey}
    {change : Json} (h : ∀ cluster', cluster.patch kind key change = .ok cluster' →
      cluster.Touched lane cluster') :
    cluster.Touched lane (cluster.patching refusal kind key change).2 := by
  rcases hanswer : cluster.patching refusal kind key change with ⟨reply, cluster'⟩
  obtain ⟨failure, -, rfl⟩ | ⟨-, hpatch⟩ := Cluster.patching_cases hanswer
  · exact .still lane
  · exact h _ hpatch

theorem Scene.Sound.touched (sound : scene.Sound) {lane : Lane} {past : List (Answered δ κ)}
    {call : Call δ κ} {next : call.Reply → Calling δ κ Outcome}
    (hlane : scene.ongoing lane = some ⟨past, .call call next⟩) :
    scene.cluster.Touched lane (scene.cluster.answer scope refusal outside call).2 := by
  cases lane with
  | provider key number =>
    obtain ⟨phase, own, allowed, -⟩ := sound.fits (.provider key number) _ hlane
    cases call with
    | patchStatus kind k patch =>
      obtain ⟨provider, hprovider, rfl, rfl, change, rfl⟩ := allowed
      rw [own provider hprovider]
      exact Cluster.patching_touched fun cluster' h => .providerStatus h
    | patchProvider k patch => cases allowed
    | _ => exact .still _
  | notifier key =>
    have lawful : Ongoing.Lawful key _ := sound.fits (.notifier key) _ hlane
    have allowed := lawful.obeys.1
    cases call with
    | patchStatus kind k patch =>
      obtain ⟨notifier, old, new, hwrites, rfl, rfl, before, after, rfl, -⟩ := allowed
      rw [lawful.key_of_writes? hwrites]
      exact Cluster.patching_touched fun cluster' h => .notifierStatus h
    | patchProvider k patch =>
      obtain ⟨notifier, provider, ip, howes, rfl, rfl⟩ := allowed
      rw [Marker.ofNotifier_eq (lawful.key_of_owes? howes)]
      exact Cluster.patching_touched fun cluster' h => .marker h
    | _ => exact .still _

/-! ### Every scene is sound -/

theorem Lane.fits_pass (lane : Lane) : (⟨[], lane.pass⟩ : Ongoing δ κ).Fits lane := by
  cases lane with
  | notifier key =>
    refine ⟨trivial, fun notifier absurd => ?_, fun listed absurd => ?_, Pass.notifier_obeys key⟩
    all_goals cases absurd
  | provider key number =>
    refine ⟨.opening, fun provider absurd => ?_, Pass.provider_obeys key⟩
    cases absurd

theorem Ongoing.Fits.next {cluster : Cluster} (kept : cluster.WellKept) {lane : Lane}
    {past : List (Answered δ κ)} {call : Call δ κ} {next : call.Reply → Calling δ κ Outcome}
    (fits : (⟨past, .call call next⟩ : Ongoing δ κ).Fits lane) :
    let reply := (cluster.answer scope refusal outside call).1
    (⟨⟨call, reply⟩ :: past, next reply⟩ : Ongoing δ κ).Fits lane := by
  intro reply
  cases lane with
  | provider key number =>
    obtain ⟨phase, own, allowed, continues⟩ := fits
    refine ⟨phase.next call reply, fun provider hprovider => ?_, continues reply _ rfl⟩
    cases call with
    | getProvider k =>
      obtain ⟨-, rfl⟩ := allowed
      rcases Phase.provider?_afterReading hprovider with hprovider | hread
      · exact own provider hprovider
      · exact kept.providers.keyOf_of_get? (Cluster.eq_of_reading_eq_ok hread).symm
    | _ => exact own provider (Phase.provider?_next (by simp) reply hprovider)
  | notifier key =>
    obtain ⟨lawful, own, apart, allowed, continues⟩ := fits
    refine ⟨⟨allowed, lawful⟩, fun notifier hread => ?_, fun listed hlisted => ?_,
      continues reply _ rfl⟩
    · cases call with
      | getNotifier k =>
        obtain ⟨-, rfl⟩ := allowed
        rcases List.mem_cons.1 hread with hread | hread
        · exact kept.notifiers.keyOf_of_get? (Cluster.eq_of_reading_eq_ok hread.symm).symm
        · exact own notifier hread
      | _ => exact own notifier hread
    · cases call with
      | listProviders =>
        rcases List.mem_cons.1 hlisted with hlisted | hlisted
        · rw [Cluster.eq_of_reading_eq_ok hlisted.symm]
          exact kept.providers.values_pairwise.filter _
        · exact apart listed hlisted
      | _ => exact apart listed hlisted

theorem Ongoing.Fits.recorded {lane : Lane} {past : List (Answered δ κ)} {call : Call δ κ}
    {next : call.Reply → Calling δ κ Outcome}
    (fits : (⟨past, .call call next⟩ : Ongoing δ κ).Fits lane) (reply : call.Reply) :
    (⟨lane, past, .answered ⟨call, reply⟩⟩ : Entry δ κ).Recorded := by
  intro key hlane answered hevent
  cases hevent
  obtain rfl : lane = .notifier key := hlane
  have lawful : Ongoing.Lawful key _ := fits
  exact ⟨lawful.obeys.1, lawful.lawful⟩

theorem Scene.Sound.update {cluster : Cluster} {lane : Lane} {ongoing? : Option (Ongoing δ κ)}
    {log : List (Entry δ κ)} (sound : scene.Sound) (kept : cluster.WellKept)
    (fits : ∀ ongoing, ongoing? = some ongoing → ongoing.Fits lane)
    (recorded : ∀ entry ∈ log, entry.Recorded) :
    (⟨cluster, Function.update scene.ongoing lane ongoing?, log⟩ : Scene δ κ).Sound := by
  refine ⟨kept, fun other ongoing hongoing => ?_, recorded⟩
  by_cases hother : other = lane
  · subst other
    exact fits ongoing ((Function.update_self lane ongoing? scene.ongoing).symm.trans hongoing)
  · exact sound.fits other ongoing ((Function.update_of_ne hother _ _).symm.trans hongoing)

theorem Scene.Sound.step (sound : scene.Sound) {move : Move δ κ} (tidy : move.Tidy) :
    (scene.step scope move).Sound := by
  cases move with
  | elsewhere change => exact ⟨tidy _ sound.kept, sound.fits, sound.recorded⟩
  | start lane =>
    rw [Scene.step, Scene.start]
    split
    · exact sound
    · refine sound.update sound.kept (fun ongoing hongoing => ?_) sound.recorded
      cases hongoing
      exact lane.fits_pass
  | advance lane refusal outside =>
    rw [Scene.step, Scene.advance]
    split
    · exact sound
    · refine sound.update sound.kept (fun ongoing hongoing => ?_)
        (List.forall_mem_cons.2 ⟨fun key _ answered hevent => ?_, sound.recorded⟩)
      · cases hongoing
      · cases hevent
    · rename_i past call next hlane
      have fits := sound.fits lane _ hlane
      refine sound.update ((sound.touched hlane).wellKept sound.kept) (fun ongoing hongoing => ?_)
        (List.forall_mem_cons.2 ⟨fits.recorded _, sound.recorded⟩)
      cases hongoing
      exact fits.next sound.kept

theorem Scene.sound_initial {cluster : Cluster} (kept : cluster.WellKept) :
    (Scene.initial cluster : Scene δ κ).Sound := by
  refine ⟨kept, fun lane ongoing absurd => ?_, fun entry absurd => ?_⟩
  all_goals cases absurd

theorem Scene.sound_play {cluster : Cluster} (kept : cluster.WellKept) {moves : List (Move δ κ)}
    (tidy : ∀ move ∈ moves, move.Tidy) : ((Scene.initial cluster).play scope moves).Sound :=
  play_induction (sound_initial kept) fun _ move hmove sound => sound.step (tidy move hmove)

/-! ### One move, seen from a lane -/

/-- What a move can do to the pass in a lane, and to what only that pass writes. -/
inductive Scene.Change {β : Type} (scope : Option String) (view : Cluster → β) (lane : Lane)
    (scene scene' : Scene δ κ) : Prop where
  | aside (hview : view scene'.cluster = view scene.cluster)
      (hongoing : scene'.ongoing lane = scene.ongoing lane)
      (hlog : scene'.log = scene.log ∨ ∃ entry, entry.lane ≠ lane ∧ scene'.log = entry :: scene.log)
  | started (hcluster : scene'.cluster = scene.cluster) (hlog : scene'.log = scene.log)
      (hidle : scene.ongoing lane = none) (hongoing : scene'.ongoing lane = some ⟨[], lane.pass⟩)
  | ended (past : List (Answered δ κ)) (outcome : Outcome)
      (hcluster : scene'.cluster = scene.cluster)
      (hbefore : scene.ongoing lane = some ⟨past, .done outcome⟩)
      (hongoing : scene'.ongoing lane = none)
      (hlog : scene'.log = ⟨lane, past, .ended outcome⟩ :: scene.log)
  | called (past : List (Answered δ κ)) (call : Call δ κ) (next : call.Reply → Calling δ κ Outcome)
      (reply : call.Reply) (refusal : Option Failure) (outside : (call : Call δ κ) → call.Reply)
      (hanswer : scene.cluster.answer scope refusal outside call = (reply, scene'.cluster))
      (hbefore : scene.ongoing lane = some ⟨past, .call call next⟩)
      (hongoing : scene'.ongoing lane = some ⟨⟨call, reply⟩ :: past, next reply⟩)
      (hlog : scene'.log = ⟨lane, past, .answered ⟨call, reply⟩⟩ :: scene.log)

theorem Scene.Sound.change {β : Type} {view : Cluster → β} {own : Lane} (sound : scene.Sound)
    {move : Move δ κ}
    (hprivate : ∀ lane cluster', move.lane? = some lane → lane ≠ own →
      scene.cluster.Touched lane cluster' → view cluster' = view scene.cluster)
    (respects : move.Respects view) : scene.Change scope view own (scene.step scope move) := by
  cases move with
  | elsewhere change => exact .aside (respects _ sound.kept).2 rfl (.inl rfl)
  | start lane =>
    rw [Scene.step, Scene.start]
    split
    · exact .aside rfl rfl (.inl rfl)
    · rename_i hidle
      by_cases hlane : lane = own
      · subst lane
        exact .started rfl rfl hidle (Function.update_self _ _ _)
      · exact .aside rfl (Function.update_of_ne (Ne.symm hlane) _ _) (.inl rfl)
  | advance lane refusal outside =>
    rw [Scene.step, Scene.advance]
    split
    · exact .aside rfl rfl (.inl rfl)
    · rename_i past outcome hbefore
      by_cases hlane : lane = own
      · subst lane
        exact .ended past outcome rfl hbefore (Function.update_self _ _ _) rfl
      · exact .aside rfl (Function.update_of_ne (Ne.symm hlane) _ _) (.inr ⟨_, hlane, rfl⟩)
    · rename_i past call next hbefore
      by_cases hlane : lane = own
      · subst lane
        exact .called past call next _ refusal outside rfl hbefore (Function.update_self _ _ _) rfl
      · exact .aside (hprivate lane _ rfl hlane (sound.touched hbefore))
          (Function.update_of_ne (Ne.symm hlane) _ _) (.inr ⟨_, hlane, rfl⟩)

/-- What a move in a lane does to the cluster is done by that lane. -/
theorem Scene.Sound.touched_step (sound : scene.Sound) {move : Move δ κ} {lane : Lane}
    (hmove : move.lane? = some lane) :
    scene.cluster.Touched lane (scene.step scope move).cluster := by
  have hprivate (other : Lane) (cluster' : Cluster) (hother : move.lane? = some other)
      (hne : other ≠ lane) (_ : scene.cluster.Touched other cluster') : cluster' = scene.cluster :=
    absurd (Option.some.inj (hother.symm.trans hmove)) hne
  cases sound.change hprivate (Move.respects_of_lane? id hmove) with
  | aside hview =>
    rw [show (scene.step scope move).cluster = scene.cluster from hview]
    exact .still lane
  | started hcluster | ended _ _ hcluster =>
    rw [hcluster]
    exact .still lane
  | called past call next reply refusal outside hanswer hbefore =>
    have touched : scene.cluster.Touched lane (scene.cluster.answer scope refusal outside call).2 :=
      sound.touched hbefore
    rwa [hanswer] at touched

/-- What is read off the entries of a lane stays as it is where a move happens aside. -/
theorem Scene.filterMap_log_of_aside {α : Type} {notifier : ObjectKey} {scene' : Scene δ κ}
    {read : Entry δ κ → Option α}
    (hread : ∀ entry, entry.lane ≠ .notifier notifier → read entry = none)
    (hlog : scene'.log = scene.log ∨
      ∃ entry, entry.lane ≠ .notifier notifier ∧ scene'.log = entry :: scene.log) :
    scene'.log.filterMap read = scene.log.filterMap read := by
  rcases hlog with hlog | ⟨entry, hlane, hlog⟩
  · rw [hlog]
  · rw [hlog, List.filterMap_cons_none (hread entry hlane)]

/-! ### What the pass in the lane of a notifier does to the cluster -/

/-- A status that is written moves the readiness in the store, unless it leaves it as it was. -/
theorem isReady_patchStatus_cases {cluster cluster' : Cluster} (kept : cluster.WellKept)
    {key : ObjectKey} {before : Option NotifierStatus} {after : NotifierStatus}
    (h : cluster.patch .notifier key (Pass.statusPatch before after) = .ok cluster') :
    cluster'.isReady key = after.isReady ∧
        (after.isReady = true → (before.getD Status.initial).isReady = false) ∨
      cluster'.isReady key = cluster.isReady key ∧
        (before.getD Status.initial).isReady = after.isReady := by
  rw [(Cluster.patch_notifierStatus kept h).2.2]
  by_cases hsame : before.any (·.isReady = after.isReady)
  · rw [if_neg fun h => h.2 hsame]
    cases before with
    | none => cases hsame
    | some status => exact .inr ⟨rfl, of_decide_eq_true hsame⟩
  · rw [if_pos ⟨rfl, hsame⟩]
    refine .inl ⟨rfl, fun hready => ?_⟩
    cases before with
    | none => rfl
    | some status => exact Bool.eq_false_iff.2 fun h => hsame (decide_eq_true (h.trans hready.symm))

end DynamicDns
