import DynamicDns.Proofs.Run.Sound
import DynamicDns.Proofs.World.Announced
import Mathlib.Data.List.Pairwise

/-!
# What was delivered

An announcement is about the provider that is next in the pass that makes it. Between the listing
and the last announcement each provider that was to be announced is either still due or marked with
the address that was listed, and a marker is written only for an address that was delivered. So
markers are truthful however calls fail, and a pass that succeeds leaves nothing of its listing out.
-/

namespace DynamicDns

open Pass (Outcome Stage dueAmong pending?)

variable {δ κ : Type}

def Entry.delivery? (notifier provider : ObjectKey) (entry : Entry δ κ) : Option String :=
  match entry.event with
  | .answered ⟨.notify _ _, .ok ()⟩ =>
    if entry.lane = .notifier notifier then
      (Stage.of notifier entry.past).announces?.bind fun next =>
        if next.1.key = provider then some next.2 else none
    else none
  | _ => none

def deliveries (notifier provider : ObjectKey) (log : List (Entry δ κ)) : List String :=
  log.filterMap (·.delivery? notifier provider)

variable {scope : Option String} {refusal : Option Failure}
  {outside : (call : Call δ κ) → call.Reply} {notifier provider : ObjectKey}
  {scene scene' : Scene δ κ}

theorem deliveries_cons_of_none {log : List (Entry δ κ)} {entry : Entry δ κ}
    (h : entry.delivery? notifier provider = none) :
    deliveries notifier provider (entry :: log) = deliveries notifier provider log :=
  List.filterMap_cons_none h

theorem Entry.delivery?_eq_none {entry : Entry δ κ} (hlane : entry.lane ≠ .notifier notifier) :
    entry.delivery? notifier provider = none := by
  rw [delivery?]
  split
  · exact if_neg hlane
  · rfl

theorem Entry.delivery?_eq_some {entry : Entry δ κ} {ip : String}
    (h : entry.delivery? notifier provider = some ip) :
    entry.lane = .notifier notifier ∧ ∃ channel message next,
      entry.event = .answered ⟨.notify channel message, .ok ()⟩ ∧
        (Stage.of notifier entry.past).announces? = some (next, ip) ∧ next.key = provider := by
  rw [delivery?] at h
  split at h
  · rename_i channel message hevent
    split at h
    · rename_i hlane
      obtain ⟨⟨next, address⟩, hnext, hkey⟩ := Option.bind_eq_some_iff.1 h
      dsimp only at hkey
      split at hkey
      · rename_i hprovider
        cases hkey
        exact ⟨hlane, channel, message, next, hevent, hnext, hprovider⟩
      · cases hkey
    · cases h
  · cases h

theorem deliveries_cons_of_notify {past : List (Answered δ κ)} {channel : κ} {message : String}
    {log : List (Entry δ κ)} {found : Notifier} {listed : List Provider} {next : Provider}
    {ip : String} {due : List (Provider × String)}
    (hstage : Stage.of notifier past = .announcing found listed ((next, ip) :: due)) :
    deliveries notifier provider
        (⟨.notifier notifier, past, .answered ⟨.notify channel message, .ok ()⟩⟩ :: log) =
      if next.key = provider then ip :: deliveries notifier provider log
      else deliveries notifier provider log := by
  have hdelivery : (⟨.notifier notifier, past, .answered ⟨.notify channel message, .ok ()⟩⟩ :
      Entry δ κ).delivery? notifier provider = if next.key = provider then some ip else none := by
    rw [Entry.delivery?, hstage]
    exact if_pos rfl
  by_cases hkey : next.key = provider
  · rw [if_pos hkey] at hdelivery ⊢
    exact List.filterMap_cons_some hdelivery
  · rw [if_neg hkey] at hdelivery ⊢
    exact List.filterMap_cons_none hdelivery

/-! ### What is due -/

theorem mem_dueAmong {marker : Marker} {listed : List Provider} {next : Provider} {ip : String}
    (h : (next, ip) ∈ dueAmong notifier marker listed) :
    next ∈ listed ∧ next.refersTo notifier = true ∧ pending? marker next = some ip := by
  obtain ⟨other, hother, hpending⟩ := List.mem_filterMap.1 h
  obtain ⟨address, haddress, heq⟩ := Option.map_eq_some_iff.1 hpending
  obtain ⟨hlisted, hrefers⟩ := List.mem_filter.1 hother
  cases heq
  exact ⟨hlisted, hrefers, haddress⟩

theorem dueAmong_pairwise {marker : Marker} {listed : List Provider}
    (apart : listed.Pairwise fun a b => a.key ≠ b.key) :
    (dueAmong notifier marker listed).Pairwise fun a b => a.1.key ≠ b.1.key := by
  rw [dueAmong, List.pairwise_filterMap]
  refine (apart.filter _).imp fun {a b} hab x hx y hy => ?_
  obtain ⟨_, _, rfl⟩ := Option.map_eq_some_iff.1 hx
  obtain ⟨_, _, rfl⟩ := Option.map_eq_some_iff.1 hy
  exact hab

/-- A provider that refers to the notifier and has an address is due or was announced. -/
theorem due_or_announced {marker : Marker} {listed : List Provider} {next : Provider}
    (hlisted : next ∈ listed) (hrefers : next.refersTo notifier = true)
    (hip : next.statusOrInitial.providerIp ≠ "") :
    (next, next.statusOrInitial.providerIp) ∈ dueAmong notifier marker listed ∨
      next.announcedTo marker = some next.statusOrInitial.providerIp := by
  by_cases hannounced : next.announcedTo marker = some next.statusOrInitial.providerIp
  · exact .inr hannounced
  · have hpending : pending? marker next = some next.statusOrInitial.providerIp := by
      rw [pending?]
      exact if_neg (not_or.2 ⟨hip, hannounced⟩)
    refine .inl (List.mem_filterMap.2 ⟨next, List.mem_filter.2 ⟨hlisted, hrefers⟩, ?_⟩)
    rw [hpending]
    rfl

/-- What is to be announced next was listed with its address, and refers to the notifier. -/
theorem listed_of_tells {past : List (Answered δ κ)} {found : Notifier} {listed : List Provider}
    {next : Provider} {ip : String} {due : List (Provider × String)}
    (told : Stage.Tells notifier past (.announcing found listed ((next, ip) :: due))) :
    .ok listed ∈ Pass.listings past ∧ next ∈ listed ∧ next.refersTo notifier = true ∧
      next.statusOrInitial.providerIp = ip := by
  obtain ⟨-, hlistings, -, -, -, hdue⟩ := told
  obtain ⟨hlisted, hrefers, hpending⟩ := mem_dueAmong (hdue.mem List.mem_cons_self)
  refine ⟨?_, hlisted, hrefers, (pending?_eq_some hpending).1⟩
  rw [hlistings]
  exact List.mem_cons_self

/-! ### What a call does to the markers -/

theorem Scene.Sound.marked_private (sound : scene.Sound) (plain : notifier.marker.Plain)
    (lane : Lane) (cluster' : Cluster) (hlane : lane ≠ .notifier notifier)
    (touched : scene.cluster.Touched lane cluster') :
    cluster'.marked notifier = scene.cluster.marked notifier :=
  touched.marked_eq sound.kept plain hlane

/-- Only a marker patch moves markers. -/
theorem Scene.Sound.marked_of_answer (sound : scene.Sound) {past : List (Answered δ κ)}
    {call : Call δ κ} {next : call.Reply → Calling δ κ Outcome} {reply : call.Reply}
    {cluster' : Cluster}
    (hbefore : scene.ongoing (.notifier notifier) = some ⟨past, .call call next⟩)
    (hcall : ∀ key patch, call ≠ .patchProvider key patch)
    (hanswer : scene.cluster.answer scope refusal outside call = (reply, cluster')) :
    cluster'.marked = scene.cluster.marked := by
  have lawful : Ongoing.Lawful notifier _ := sound.fits (.notifier notifier) _ hbefore
  cases call with
  | patchProvider key patch => exact absurd rfl (hcall key patch)
  | patchStatus kind key patch =>
    obtain ⟨found, old, new, -, rfl, rfl, before, after, rfl, -⟩ := lawful.obeys.1
    change scene.cluster.patching _ _ _ _ = _ at hanswer
    obtain ⟨failure, -, rfl⟩ | ⟨-, hpatch⟩ := Cluster.patching_cases hanswer
    · rfl
    · exact (Cluster.patch_notifierStatus sound.kept hpatch).2.1
  | _ =>
    cases hanswer
    rfl

/-- A marker patch that is accepted marks the provider of the last delivery. -/
theorem Scene.Sound.mark_cases (sound : scene.Sound) (plain : notifier.marker.Plain)
    {past : List (Answered δ κ)} {key : ObjectKey} {patch : Json}
    {next : Except Failure Unit → Calling δ κ Outcome} {reply : Except Failure Unit}
    {cluster' : Cluster}
    (hbefore : scene.ongoing (.notifier notifier) = some ⟨past, .call (.patchProvider key patch) next⟩)
    (hanswer : scene.cluster.patching refusal .provider key patch = (reply, cluster')) :
    (∃ failure, reply = .error failure ∧ cluster' = scene.cluster) ∨
      reply = .ok () ∧ ∃ found listed last ip due,
        Stage.of notifier past = .owing found listed last ip due ∧
          ∀ other, cluster'.marked notifier other =
            if last.key = other then some ip else scene.cluster.marked notifier other := by
  have lawful : Ongoing.Lawful notifier _ := sound.fits (.notifier notifier) _ hbefore
  obtain ⟨found, last, ip, howes, rfl, rfl⟩ := lawful.obeys.1
  obtain ⟨listed, due, hstage⟩ := Stage.owes?_eq_some howes
  refine (Cluster.patching_cases hanswer).imp_right fun ⟨haccepted, hpatch⟩ => ?_
  refine ⟨haccepted, found, listed, last, ip, due, hstage, fun other => ?_⟩
  rw [(Cluster.patch_marker sound.kept hpatch).2.2 notifier plain,
    Marker.ofNotifier_eq (lawful.key_of_owes? howes)]
  by_cases hother : last.key = other
  · rw [if_pos ⟨hother, rfl⟩, if_pos hother]
  · rw [if_neg fun h => hother h.1, if_neg hother]

/-- A listed provider is the one that is found, so its marker is the one that is listed. -/
theorem Scene.Sound.marked_of_listing (sound : scene.Sound) {listed : List Provider}
    (hanswer : (scene.cluster.answer scope refusal outside .listProviders).1 = .ok listed)
    {next : Provider} (hnext : next ∈ listed) :
    scene.cluster.marked notifier next.key = next.announcedTo notifier.marker := by
  rw [Cluster.eq_of_reading_eq_ok hanswer] at hnext
  have hfound := sound.kept.providers.get?_of_mem_values (List.mem_filter.1 hnext).1
  rw [Cluster.marked, hfound]
  rfl

/-! ### Nothing of a listing is left out -/

/-- Each listed provider that is to be announced is among those still due or is marked. -/
def Covers (notifier : ObjectKey) (marked : ObjectKey → Option String) (listed : List Provider)
    (due : List (Provider × String)) : Prop :=
  ∀ next ∈ listed, next.refersTo notifier = true → next.statusOrInitial.providerIp ≠ "" →
    (next, next.statusOrInitial.providerIp) ∈ due ∨
      marked next.key = some next.statusOrInitial.providerIp

def Pass.Stage.Settles (notifier : ObjectKey) (marked : ObjectKey → Option String)
    (delivered : ObjectKey → List String) : Stage → Prop
  | .announcing _ listed due => Covers notifier marked listed due
  | .owing _ listed last ip due =>
    ip ∈ delivered last.key ∧ Covers notifier marked listed ((last, ip) :: due)
  | _ => True

/-- Markers are truthful, and the pass that is going on covers its listing. -/
structure Scene.Truthful (notifier : ObjectKey) (scene : Scene δ κ) : Prop where
  delivered : ∀ provider ip, scene.cluster.marked notifier provider = some ip →
    ip ∈ deliveries notifier provider scene.log
  settles : ∀ ongoing, scene.ongoing (.notifier notifier) = some ongoing →
    (Stage.of notifier ongoing.past).Settles notifier (scene.cluster.marked notifier)
      fun provider => deliveries notifier provider scene.log

/-- Marking the provider that is owed its marker covers the listing without it. -/
theorem Covers.mark {marked marked' : ObjectKey → Option String} {listed : List Provider}
    {last : Provider} {ip : String} {due : List (Provider × String)}
    (h : Covers notifier marked listed ((last, ip) :: due))
    (apart : listed.Pairwise fun a b => a.key ≠ b.key) (hlast : last ∈ listed)
    (hip : last.statusOrInitial.providerIp = ip)
    (hmarked : ∀ other, marked' other = if last.key = other then some ip else marked other) :
    Covers notifier marked' listed due := by
  intro next hnext hrefers haddress
  rw [hmarked]
  by_cases hkey : last.key = next.key
  · have hsymm : Std.Symm fun a b : Provider => a.key ≠ b.key := ⟨fun _ _ h => h.symm⟩
    have hsame : next = last := by
      by_contra hne
      exact apart.forall hnext hlast hne hkey.symm
    rw [if_pos hkey, hsame, hip]
    exact .inr rfl
  · rw [if_neg hkey]
    rcases h next hnext hrefers haddress with hdue | hdone
    · rcases List.mem_cons.1 hdue with heq | hdue
      · exact absurd (congrArg (fun entry => entry.1.key) heq).symm hkey
      · exact .inl hdue
    · exact .inr hdone

theorem Scene.Truthful.keep (truthful : scene.Truthful notifier)
    (hmarked : scene'.cluster.marked notifier = scene.cluster.marked notifier)
    (hdeliveries : ∀ provider,
      deliveries notifier provider scene'.log = deliveries notifier provider scene.log)
    (settles : ∀ ongoing, scene'.ongoing (.notifier notifier) = some ongoing →
      (Stage.of notifier ongoing.past).Settles notifier (scene.cluster.marked notifier)
        fun provider => deliveries notifier provider scene.log) : scene'.Truthful notifier := by
  refine ⟨fun provider ip h => ?_, fun ongoing h => ?_⟩
  · rw [hdeliveries]
    exact truthful.delivered provider ip (hmarked ▸ h)
  · rw [hmarked, funext hdeliveries]
    exact settles ongoing h

theorem Scene.Truthful.mark (sound : scene.Sound) (plain : notifier.marker.Plain)
    (truthful : scene.Truthful notifier) {past : List (Answered δ κ)} {key : ObjectKey}
    {patch : Json} {next : Except Failure Unit → Calling δ κ Outcome} {reply : Except Failure Unit}
    (hanswer : scene.cluster.patching refusal .provider key patch = (reply, scene'.cluster))
    (hbefore : scene.ongoing (.notifier notifier) = some ⟨past, .call (.patchProvider key patch) next⟩)
    (hongoing : scene'.ongoing (.notifier notifier) =
      some ⟨⟨.patchProvider key patch, reply⟩ :: past, next reply⟩)
    (hlog : scene'.log = ⟨.notifier notifier, past, .answered ⟨.patchProvider key patch, reply⟩⟩ ::
      scene.log) : scene'.Truthful notifier := by
  have lawful : Ongoing.Lawful notifier _ := sound.fits (.notifier notifier) _ hbefore
  have told := Stage.tells lawful.lawful
  have settles := truthful.settles _ hbefore
  have hdeliveries (provider : ObjectKey) :
      deliveries notifier provider scene'.log = deliveries notifier provider scene.log := by
    rw [hlog, deliveries_cons_of_none rfl]
  rcases sound.mark_cases plain hbefore hanswer with
    ⟨failure, rfl, hcluster⟩ | ⟨rfl, found, listed, last, ip, due, hstage, hmarked⟩
  · refine truthful.keep (by rw [hcluster]) hdeliveries fun ongoing h => ?_
    rw [hongoing] at h
    cases h
    obtain ⟨found, last, ip, howes, -⟩ := lawful.obeys.1
    obtain ⟨listed, due, hstage⟩ := Stage.owes?_eq_some howes
    change ((Stage.of notifier past).afterMarking false).Settles _ _ _
    rw [hstage]
    trivial
  · change (Stage.of notifier past).Settles _ _ _ at settles
    rw [hstage] at told settles
    obtain ⟨hdelivered, hcovers⟩ := settles
    refine ⟨fun provider address h => ?_, fun ongoing h => ?_⟩
    · rw [hdeliveries]
      rw [hmarked] at h
      split at h
      · rename_i hkey
        cases h
        exact hkey ▸ hdelivered
      · exact truthful.delivered provider address h
    · rw [hongoing] at h
      cases h
      change ((Stage.of notifier past).afterMarking true).Settles _ _ _
      rw [hstage]
      obtain ⟨hlistings, hlisted, -, hip⟩ := listed_of_tells told
      exact hcovers.mark (lawful.apart listed hlistings) hlisted hip hmarked

theorem Scene.Truthful.notify (truthful : scene.Truthful notifier) {past : List (Answered δ κ)}
    {channel : κ} {message : String} {found : Notifier} {listed : List Provider} {last : Provider}
    {ip : String} {due : List (Provider × String)}
    {rest : Calling δ κ Outcome} (hcluster : scene'.cluster = scene.cluster)
    (hcovers : Covers notifier (scene.cluster.marked notifier) listed ((last, ip) :: due))
    (hstage : Stage.of notifier past = .announcing found listed ((last, ip) :: due))
    (hongoing : scene'.ongoing (.notifier notifier) =
      some ⟨⟨.notify channel message, .ok ()⟩ :: past, rest⟩)
    (hlog : scene'.log = ⟨.notifier notifier, past, .answered ⟨.notify channel message, .ok ()⟩⟩ ::
      scene.log) : scene'.Truthful notifier := by
  refine ⟨fun provider address h => ?_, fun ongoing h => ?_⟩
  · have hdelivered := truthful.delivered provider address (hcluster ▸ h)
    rw [hlog, deliveries_cons_of_notify hstage]
    split
    · exact List.mem_cons_of_mem _ hdelivered
    · exact hdelivered
  · rw [hongoing] at h
    cases h
    change ((Stage.of notifier past).afterNotifying true).Settles _ _ _
    rw [hstage, hcluster]
    refine ⟨?_, hcovers⟩
    change ip ∈ deliveries notifier last.key scene'.log
    rw [hlog, deliveries_cons_of_notify hstage, if_pos rfl]
    exact List.mem_cons_self

/-- A listing is covered by what is due of it and what is marked. -/
theorem Scene.Sound.covers (sound : scene.Sound) {found : Notifier} (hkey : found.key = notifier)
    {listed : List Provider}
    (hanswer : (scene.cluster.answer scope refusal outside .listProviders).1 = .ok listed) :
    Covers notifier (scene.cluster.marked notifier) listed
      (dueAmong notifier (Marker.ofNotifier found) listed) := by
  intro next hnext hrefers haddress
  rw [sound.marked_of_listing hanswer hnext, Marker.ofNotifier_eq hkey]
  exact due_or_announced hnext hrefers haddress

theorem Pass.Stage.Settles.write {stage : Stage} {marked : ObjectKey → Option String}
    {delivered : ObjectKey → List String} (settles : stage.Settles notifier marked delivered)
    (written : Bool) : (stage.afterWriting written).Settles notifier marked delivered := by
  cases written with
  | false =>
    rw [afterWriting_false]
    trivial
  | true =>
    cases stage with
    | greeted reader delivered => cases delivered <;> trivial
    | announcing | owing => exact settles
    | _ => trivial

theorem Scene.Truthful.call (sound : scene.Sound) (plain : notifier.marker.Plain)
    (truthful : scene.Truthful notifier) {past : List (Answered δ κ)} {call : Call δ κ}
    {next : call.Reply → Calling δ κ Outcome} {reply : call.Reply}
    (hanswer : scene.cluster.answer scope refusal outside call = (reply, scene'.cluster))
    (hbefore : scene.ongoing (.notifier notifier) = some ⟨past, .call call next⟩)
    (hongoing : scene'.ongoing (.notifier notifier) = some ⟨⟨call, reply⟩ :: past, next reply⟩)
    (hlog : scene'.log = ⟨.notifier notifier, past, .answered ⟨call, reply⟩⟩ :: scene.log) :
    scene'.Truthful notifier := by
  by_cases hmarks : ∃ key patch, call = .patchProvider key patch
  · obtain ⟨key, patch, rfl⟩ := hmarks
    exact truthful.mark sound plain hanswer hbefore hongoing hlog
  have hcall : ∀ key patch, call ≠ .patchProvider key patch := fun key patch h => hmarks ⟨key, patch, h⟩
  have hmarked := congrFun (sound.marked_of_answer hbefore hcall hanswer) notifier
  have lawful : Ongoing.Lawful notifier _ := sound.fits (.notifier notifier) _ hbefore
  have settles : (Stage.of notifier past).Settles _ _ _ := truthful.settles _ hbefore
  have allowed := lawful.obeys.1
  have hkeep (hdelivery : ∀ provider, (⟨.notifier notifier, past, .answered ⟨call, reply⟩⟩ :
        Entry δ κ).delivery? notifier provider = none)
      (h : ((Stage.of notifier past).next notifier call reply).Settles notifier
        (scene.cluster.marked notifier) fun provider => deliveries notifier provider scene.log) :
      scene'.Truthful notifier := by
    refine truthful.keep hmarked (fun provider => ?_) fun ongoing hsome => ?_
    · rw [hlog, deliveries_cons_of_none (hdelivery provider)]
    · rw [hongoing] at hsome
      cases hsome
      exact h
  cases call with
  | patchProvider key patch => exact absurd rfl (hcall key patch)
  | notify channel message =>
    obtain ⟨last, ip, hnext, -⟩ := allowed
    obtain ⟨found, listed, due, hstage⟩ := Stage.announces?_eq_some hnext
    rw [hstage] at settles
    obtain ⟨-, hcluster⟩ := Prod.mk.inj hanswer
    cases reply with
    | ok value => exact truthful.notify hcluster.symm settles hstage hongoing hlog
    | error e =>
      refine hkeep (fun _ => rfl) ?_
      rw [hstage]
      trivial
  | listProviders =>
    obtain ⟨found, hstage, -⟩ := allowed
    refine hkeep (fun _ => rfl) ?_
    rw [hstage]
    cases reply with
    | error failure => trivial
    | ok listed =>
      have hkey := lawful.key_of_writes? (congrArg Stage.writes? hstage)
      exact sound.covers hkey (congrArg Prod.fst hanswer)
  | getNotifier key =>
    obtain ⟨hstage, -⟩ := allowed
    refine hkeep (fun _ => rfl) ?_
    rw [hstage]
    rcases reply with failure | _ | found <;> trivial
  | greet channel =>
    obtain ⟨found, hstage, -⟩ := allowed
    refine hkeep (fun _ => rfl) ?_
    rw [hstage]
    trivial
  | patchStatus kind key patch => exact hkeep (fun _ => rfl) (settles.write _)
  | getSecret | getConfigMap | createChannel | now | elapsed | record =>
    exact hkeep (fun _ => rfl) settles
  | getProvider | publicIp | createClient | getIp | setIp => cases allowed

theorem Scene.Truthful.step (sound : scene.Sound) (plain : notifier.marker.Plain)
    (truthful : scene.Truthful notifier) {move : Move δ κ}
    (respects : move.Respects (·.marked notifier)) : (scene.step scope move).Truthful notifier := by
  cases sound.change (fun lane cluster' _ => sound.marked_private plain lane cluster') respects with
  | aside hview hongoing hlog =>
    refine truthful.keep hview (fun provider => ?_) fun ongoing h => ?_
    · exact filterMap_log_of_aside (fun entry => Entry.delivery?_eq_none) hlog
    · exact truthful.settles ongoing (hongoing.symm.trans h)
  | started hcluster hlog hidle hongoing =>
    refine truthful.keep (by rw [hcluster]) (fun provider => by rw [hlog]) fun ongoing h => ?_
    rw [hongoing] at h
    cases h
    trivial
  | ended past outcome hcluster hbefore hongoing hlog =>
    refine truthful.keep (by rw [hcluster]) (fun provider => ?_) fun ongoing h => ?_
    · rw [hlog, deliveries_cons_of_none rfl]
    · rw [hongoing] at h
      cases h
  | called past call next reply refusal outside hanswer hbefore hongoing hlog =>
    exact truthful.call sound plain hanswer hbefore hongoing hlog

/-! ### What a delivery is -/

/-- The announcement of an address was delivered, for a provider that the pass had listed with it. -/
def Entry.Delivers (notifier provider : ObjectKey) (ip : String) (entry : Entry δ κ) : Prop :=
  entry.lane = .notifier notifier ∧ ∃ listed next channel,
    .ok listed ∈ Pass.listings entry.past ∧ next ∈ listed ∧ next.refersTo notifier = true ∧
      next.key = provider ∧ next.statusOrInitial.providerIp = ip ∧
        entry.event = .answered ⟨.notify channel
          (Wording.announcement ip next.statusOrInitial.publicIp provider.name), .ok ()⟩

theorem Scene.Sound.exists_delivers (sound : scene.Sound) {ip : String}
    (h : ip ∈ deliveries notifier provider scene.log) :
    ∃ entry ∈ scene.log, entry.Delivers notifier provider ip := by
  obtain ⟨entry, hentry, hdelivery⟩ := List.mem_filterMap.1 h
  obtain ⟨hlane, channel, message, next, hevent, hnext, rfl⟩ := Entry.delivery?_eq_some hdelivery
  obtain ⟨allowed, lawful⟩ := sound.recorded entry hentry notifier hlane _ hevent
  obtain ⟨next', ip', hnext', rfl⟩ := allowed
  obtain ⟨rfl, rfl⟩ := Prod.mk.inj (Option.some.inj (hnext.symm.trans hnext'))
  obtain ⟨found, listed, due, hstage⟩ := Stage.announces?_eq_some hnext
  have told := Stage.tells lawful
  rw [hstage] at told
  obtain ⟨hlistings, hlisted, hrefers, hip⟩ := listed_of_tells told
  exact ⟨entry, hentry, hlane, listed, next, channel, hlistings, hlisted, hrefers, rfl, hip, hevent⟩

/-! ### At least once -/

theorem Scene.truthful_play {cluster : Cluster} (kept : cluster.WellKept)
    (plain : notifier.marker.Plain)
    (unmarked : ∀ provider, cluster.marked notifier provider = none) {moves : List (Move δ κ)}
    (others : ∀ move ∈ moves, move.Respects (·.marked notifier)) :
    ((Scene.initial cluster).play scope moves).Sound ∧
      ((Scene.initial cluster).play scope moves).Truthful notifier := by
  refine play_induction (motive := fun scene => scene.Sound ∧ scene.Truthful notifier)
    ⟨sound_initial kept, fun provider ip h => ?_, fun _ h => by cases h⟩ ?_
  · cases (unmarked provider).symm.trans h
  · intro scene move hmove ⟨sound, truthful⟩
    have respects := others move hmove
    exact ⟨sound.step respects.tidy, truthful.step sound plain respects⟩

/-- Announcements are delivered at least once. However calls fail, a provider is marked only with an
address that was delivered, and where a pass that read the notifier as ready succeeds, each provider
of its listing that refers to the notifier and has an address had that address delivered, and is
marked with it. -/
theorem announces_at_least_once (scope : Option String) {cluster : Cluster}
    (kept : cluster.WellKept) (notifier : ObjectKey) (plain : notifier.marker.Plain)
    (unmarked : ∀ provider, cluster.marked notifier provider = none) (moves : List (Move δ κ))
    (others : ∀ move ∈ moves, move.Respects (·.marked notifier)) :
    let scene := (Scene.initial cluster).play scope moves
    (∀ provider ip, scene.cluster.marked notifier provider = some ip →
      ∃ entry ∈ scene.log, entry.Delivers notifier provider ip) ∧
    ∀ past next, scene.ongoing (.notifier notifier) = some ⟨past, .done (.ok next)⟩ →
      ∀ found, .ok (some found) ∈ Pass.readings past → found.statusOrInitial.isReady = true →
        ∃ listed, Pass.listings past = [.ok listed] ∧
          ∀ provider ∈ listed, provider.refersTo notifier = true →
            provider.statusOrInitial.providerIp ≠ "" →
              (∃ entry ∈ scene.log,
                entry.Delivers notifier provider.key provider.statusOrInitial.providerIp) ∧
              scene.cluster.marked notifier provider.key =
                some provider.statusOrInitial.providerIp := by
  intro scene
  obtain ⟨sound, truthful⟩ : scene.Sound ∧ scene.Truthful notifier :=
    Scene.truthful_play kept plain unmarked others
  have hdelivered (provider : ObjectKey) (ip : String)
      (h : scene.cluster.marked notifier provider = some ip) :
      ∃ entry ∈ scene.log, entry.Delivers notifier provider ip :=
    sound.exists_delivers (truthful.delivered provider ip h)
  refine ⟨hdelivered, fun past next hongoing found hfound hready => ?_⟩
  have lawful : Ongoing.Lawful notifier _ := sound.fits (.notifier notifier) _ hongoing
  have told := Stage.tells lawful.lawful
  have settles : (Stage.of notifier past).Settles _ _ _ := truthful.settles _ hongoing
  have hends : Stage.Ends (.ok next) (Stage.of notifier past) := lawful.obeys
  cases next with
  | requeue seconds =>
    obtain ⟨-, reader, hstage⟩ := hends
    rw [hstage] at told
    rw [told.1, List.mem_singleton] at hfound
    cases hfound
    rw [told.2.2.2.2] at hready
    cases hready
  | awaitChange =>
    rcases hends with hstage | ⟨reader, listed, hstage⟩
    · rw [hstage] at told
      rw [told.1, List.mem_singleton] at hfound
      cases hfound
    · rw [hstage] at told settles
      refine ⟨listed, told.2.1, fun provider hprovider hrefers haddress => ?_⟩
      rcases settles provider hprovider hrefers haddress with absurd | hmarked
      · cases absurd
      · exact ⟨hdelivered _ _ hmarked, hmarked⟩

/-- An announcement is delivered, its marker is refused, and the next pass makes it again. -/
theorem announces_at_least_once_at_home :
    let hook := Home.key "hook"
    let zone := Home.key "zone"
    let moves := Home.round "192.0.2.1" [] [.notifier hook] ++
      ((Home.round "192.0.2.1" [] [.notifier hook]).take 14 ++
        [.advance (.notifier hook) (some (.bare (.store "conflict"))) (Home.outside "192.0.2.1" []),
          .advance (.notifier hook) none (Home.outside "192.0.2.1" [])]) ++
      Home.round "192.0.2.1" [] [.notifier hook]
    let scene := (Scene.initial Home.cluster).play none moves
    (∀ move ∈ moves, move.Respects (·.marked hook)) ∧
      deliveries hook zone scene.log = ["192.0.2.1", "192.0.2.1"] ∧
      scene.cluster.marked hook zone = some "192.0.2.1" ∧
      ∃ entry ∈ scene.log, entry.Delivers hook zone "192.0.2.1" := by
  intro hook zone moves
  have others : ∀ move ∈ moves, move.Respects (·.marked hook) := by
    intro move hmove
    simp only [moves, List.mem_append] at hmove
    rcases hmove with (h | h | h) | h
    · exact Home.respects_of_mem_round _ h
    · exact Home.respects_of_mem_round _ (List.mem_of_mem_take h)
    · simp only [List.mem_cons, List.not_mem_nil, or_false] at h
      rcases h with rfl | rfl <;> trivial
    · exact Home.respects_of_mem_round _ h
  have facts : deliveries hook zone ((Scene.initial Home.cluster).play none moves).log =
      ["192.0.2.1", "192.0.2.1"] ∧
      ((Scene.initial Home.cluster).play none moves).cluster.marked hook zone = some "192.0.2.1" := by
    decide +kernel
  have once := announces_at_least_once none Home.wellKept_cluster hook
    ⟨⟨by decide, by decide, by decide⟩, by decide⟩ (Home.marked_cluster hook) moves others
  exact ⟨others, facts.1, facts.2, once.1 zone "192.0.2.1" facts.2⟩

end DynamicDns
