import DynamicDns.Proofs.Run.Sound
import Mathlib.Data.List.Chain

/-!
# The readiness gate

Announcements are open once a greeting was delivered, and until a pass whose announcement failed has
taken the readiness away. A notifier that the store calls ready is one for which announcements are
open, and what a pass remembers of the readiness is what the store says, as long as only passes write
it. So an announcement is never made while announcements are shut.
-/

namespace DynamicDns

open Pass (Outcome Stage)

variable {δ κ : Type}

namespace Entry

def Notifies (notifier : ObjectKey) (entry : Entry δ κ) : Prop :=
  entry.lane = .notifier notifier ∧
    ∃ channel message reply, entry.event = .answered ⟨.notify channel message, reply⟩

def Greets (notifier : ObjectKey) (entry : Entry δ κ) : Prop :=
  entry.lane = .notifier notifier ∧ ∃ channel, entry.event = .answered ⟨.greet channel, .ok ()⟩

/-- A status was written after an announcement of the same pass had failed. -/
def Demotes (notifier : ObjectKey) (entry : Entry δ κ) : Prop :=
  entry.lane = .notifier notifier ∧ false ∈ Pass.notices entry.past ∧
    ∃ kind key patch, entry.event = .answered ⟨.patchStatus kind key patch, .ok ()⟩

end Entry

/-- Announcements are open: since the last greeting that was delivered nothing has shut them. -/
def Open (notifier : ObjectKey) : List (Entry δ κ) → Prop
  | [] => False
  | entry :: log => entry.Greets notifier ∨ ¬entry.Demotes notifier ∧ Open notifier log

structure Pass.Stage.Agrees (stage : Stage) (ready : Bool) (opened : Prop) : Prop where
  writes : ∀ notifier old new, stage.writes? = some (notifier, old, new) → ready = old
  greeted : ∀ notifier, stage = .greeted notifier true → opened
  promoted : ∀ notifier, stage = .promoted notifier → ready = true

structure Scene.Gated (notifier : ObjectKey) (scene : Scene δ κ) : Prop where
  opened : scene.cluster.isReady notifier = true → Open notifier scene.log
  agrees : ∀ ongoing, scene.ongoing (.notifier notifier) = some ongoing →
    (Stage.of notifier ongoing.past).Agrees (scene.cluster.isReady notifier) (Open notifier scene.log)

variable {scope : Option String} {refusal : Option Failure}
  {outside : (call : Call δ κ) → call.Reply} {notifier : ObjectKey}

/-! ### One call -/

theorem Pass.Stage.Agrees.imp {stage : Stage} {ready : Bool} {opened opened' : Prop}
    (agrees : stage.Agrees ready opened) (h : opened → opened') : stage.Agrees ready opened' :=
  ⟨agrees.writes, fun found hfound => h (agrees.greeted found hfound), agrees.promoted⟩

theorem Pass.Stage.agrees_of_none {stage : Stage} (ready : Bool) (opened : Prop)
    (hwrites : stage.writes? = none) (hpromoted : ∀ found, stage ≠ .promoted found) :
    stage.Agrees ready opened := by
  refine ⟨fun found old new h => ?_, fun found h => ?_, fun found h => absurd h (hpromoted found)⟩
  · rw [hwrites] at h
    cases h
  · rw [h] at hwrites
    cases hwrites

theorem Pass.Stage.agrees_of_writes {stage : Stage} {ready old new : Bool} {opened : Prop}
    {found : Notifier} (hwrites : stage.writes? = some (found, old, new)) (hready : ready = old)
    (hgreeted : stage = .greeted found true → opened) : stage.Agrees ready opened := by
  refine ⟨fun other old' new' h => ?_, fun other h => ?_, fun other h => ?_⟩
  · rw [hwrites] at h
    cases h
    exact hready
  · subst h
    cases hwrites
    exact hgreeted rfl
  · subst h
    cases hwrites

theorem Pass.Stage.eq_greeted_of_writes? {stage : Stage} {found : Notifier}
    (h : stage.writes? = some (found, false, true)) : stage = .greeted found true := by
  cases stage with
  | preparing reader =>
    obtain ⟨hold, hnew⟩ := Prod.mk.inj (congrArg Prod.snd (Option.some.inj h))
    exact absurd (hold.symm.trans hnew) Bool.false_ne_true
  | greeted reader delivered =>
    cases h
    rfl
  | _ => cases h

/-- A pass can shut announcements only where it writes that its own announcement failed. -/
theorem refused_of_notices {past : List (Answered δ κ)} (lawful : Stage.Lawful notifier past)
    {found : Notifier} {old new : Bool}
    (hwrites : (Stage.of notifier past).writes? = some (found, old, new))
    (hfailed : false ∈ Pass.notices past) : Stage.of notifier past = .refused found := by
  have told := Stage.tells lawful
  generalize Stage.of notifier past = stage at told hwrites
  cases stage with
  | preparing =>
    rw [told.2.2.2] at hfailed
    cases hfailed
  | greeted =>
    rw [told.2.2.2.1] at hfailed
    cases hfailed
  | announcing | owing => cases told.2.2.2.1 false hfailed
  | refused =>
    cases hwrites
    rfl
  | _ => cases hwrites

theorem not_demotes_of_call {past : List (Answered δ κ)} {lane : Lane} {call : Call δ κ}
    {reply : call.Reply} (hcall : ∀ kind key patch, call ≠ .patchStatus kind key patch) :
    ¬(⟨lane, past, .answered ⟨call, reply⟩⟩ : Entry δ κ).Demotes notifier := by
  intro ⟨_, _, kind, key, patch, hevent⟩
  cases hevent
  exact hcall _ _ _ rfl

variable {scene scene' : Scene δ κ}

theorem Open.cons {log : List (Entry δ κ)} {entry : Entry δ κ} (hdemotes : ¬entry.Demotes notifier)
    (h : Open notifier log) : Open notifier (entry :: log) :=
  .inr ⟨hdemotes, h⟩

theorem open_cons_of_lane_ne {log : List (Entry δ κ)} {entry : Entry δ κ}
    (hlane : entry.lane ≠ .notifier notifier) :
    Open notifier (entry :: log) ↔ Open notifier log := by
  constructor
  · intro h
    rcases h with h | h
    · exact absurd h.1 hlane
    · exact h.2
  · exact Open.cons fun h => hlane h.1

/-- Where a call neither shuts announcements nor moves the readiness, only the stage has to agree. -/
theorem Scene.Gated.quiet (gated : scene.Gated notifier) {entry : Entry δ κ} {ongoing : Ongoing δ κ}
    (hready : scene'.cluster.isReady notifier = scene.cluster.isReady notifier)
    (hongoing : scene'.ongoing (.notifier notifier) = some ongoing)
    (hlog : scene'.log = entry :: scene.log) (hdemotes : ¬entry.Demotes notifier)
    (agrees : (Stage.of notifier ongoing.past).Agrees (scene.cluster.isReady notifier)
      (Open notifier (entry :: scene.log))) : scene'.Gated notifier := by
  refine ⟨fun h => ?_, fun other hother => ?_⟩
  · rw [hready] at h
    rw [hlog]
    exact (gated.opened h).cons hdemotes
  · rw [hongoing] at hother
    cases hother
    rw [hready, hlog]
    exact agrees

/-- A status that is written moves the readiness as the stage says, or leaves it. -/
theorem Scene.Sound.write_cases (sound : scene.Sound) {past : List (Answered δ κ)} {kind : Kind}
    {key : ObjectKey} {patch : Json} {next : Except Failure Unit → Calling δ κ Outcome}
    {reply : Except Failure Unit} {cluster' : Cluster}
    (hanswer : scene.cluster.patching refusal kind key patch = (reply, cluster'))
    (hbefore : scene.ongoing (.notifier notifier) =
      some ⟨past, .call (.patchStatus kind key patch) next⟩) :
    (∃ failure, reply = .error failure ∧ cluster' = scene.cluster) ∨
      reply = .ok () ∧ ∃ found old new,
        (Stage.of notifier past).writes? = some (found, old, new) ∧
          (cluster'.isReady notifier = new ∧ (new = true → old = false) ∨
            cluster'.isReady notifier = scene.cluster.isReady notifier ∧ old = new) := by
  have lawful : Ongoing.Lawful notifier _ := sound.fits (.notifier notifier) _ hbefore
  obtain ⟨found, old, new, hwrites, rfl, rfl, before, after, rfl, rfl, rfl⟩ := lawful.obeys.1
  refine (Cluster.patching_cases hanswer).imp_right fun ⟨haccepted, hpatch⟩ => ?_
  refine ⟨haccepted, found, _, _, hwrites, ?_⟩
  rw [← lawful.key_of_writes? hwrites]
  exact isReady_patchStatus_cases sound.kept hpatch

/-- Writing a status shuts announcements only together with the readiness. -/
theorem Scene.Gated.write (sound : scene.Sound) (gated : scene.Gated notifier)
    {past : List (Answered δ κ)} {kind : Kind} {key : ObjectKey} {patch : Json}
    {next : Except Failure Unit → Calling δ κ Outcome} {reply : Except Failure Unit}
    (hanswer : scene.cluster.patching refusal kind key patch = (reply, scene'.cluster))
    (hbefore : scene.ongoing (.notifier notifier) =
      some ⟨past, .call (.patchStatus kind key patch) next⟩)
    (hongoing : scene'.ongoing (.notifier notifier) =
      some ⟨⟨.patchStatus kind key patch, reply⟩ :: past, next reply⟩)
    (hlog : scene'.log = ⟨.notifier notifier, past, .answered ⟨.patchStatus kind key patch, reply⟩⟩ ::
      scene.log) : scene'.Gated notifier := by
  have lawful : Ongoing.Lawful notifier _ := sound.fits (.notifier notifier) _ hbefore
  have agrees := gated.agrees _ hbefore
  rcases sound.write_cases hanswer hbefore with
    ⟨failure, rfl, hcluster⟩ | ⟨rfl, found, old, new, hwrites, hmoved⟩
  · refine gated.quiet (by rw [hcluster]) hongoing hlog ?_ ?_
    · intro ⟨_, _, kind, key, patch, hevent⟩
      cases hevent
    · change ((Stage.of notifier past).afterWriting false).Agrees _ _
      rw [Stage.afterWriting_false]
      exact Stage.agrees_of_none _ _ rfl fun _ => Stage.noConfusion
  · have hready := agrees.writes found old new hwrites
    have hready' : scene'.cluster.isReady notifier = new := by
      rcases hmoved with ⟨h, -⟩ | ⟨h, rfl⟩
      · exact h
      · exact h.trans hready
    by_cases hfailed : false ∈ Pass.notices past
    · have hstage := refused_of_notices lawful.lawful hwrites hfailed
      rw [hstage] at hwrites
      cases hwrites
      refine ⟨fun h => absurd (hready'.symm.trans h) Bool.false_ne_true, fun other hother => ?_⟩
      rw [hongoing] at hother
      cases hother
      change ((Stage.of notifier past).afterWriting true).Agrees _ _
      rw [hstage]
      exact Stage.agrees_of_none _ _ rfl fun _ => Stage.noConfusion
    · have hdemotes : ¬(⟨.notifier notifier, past,
          .answered ⟨.patchStatus kind key patch, .ok ()⟩⟩ : Entry δ κ).Demotes notifier :=
        fun h => hfailed h.2.1
      have hopen : Open notifier scene.log → Open notifier scene'.log := fun h => by
        rw [hlog]
        exact h.cons hdemotes
      have told := Stage.tells lawful.lawful
      cases hstage : Stage.of notifier past with
      | greeted reader delivered =>
        rw [hstage] at hwrites
        cases hwrites
        cases new with
        | false =>
          refine gated.quiet (hready'.trans hready.symm) hongoing hlog hdemotes ?_
          change ((Stage.of notifier past).afterWriting true).Agrees _ _
          rw [hstage] at agrees ⊢
          exact agrees.imp (Open.cons hdemotes)
        | true =>
          refine ⟨fun _ => hopen (agrees.greeted found hstage), fun other hother => ?_⟩
          rw [hongoing] at hother
          cases hother
          change ((Stage.of notifier past).afterWriting true).Agrees _ _
          rw [hstage]
          exact ⟨fun _ _ _ h => (by cases h), fun _ h => (by cases h), fun _ _ => hready'⟩
      | refused =>
        rw [hstage] at told
        exact absurd told.2.2.1 hfailed
      | preparing | announcing | owing =>
        rw [hstage] at hwrites
        cases hwrites
        refine gated.quiet (hready'.trans hready.symm) hongoing hlog hdemotes ?_
        change ((Stage.of notifier past).afterWriting true).Agrees _ _
        rw [hstage] at agrees ⊢
        exact agrees.imp (Open.cons hdemotes)
      | _ =>
        rw [hstage] at hwrites
        cases hwrites

theorem Pass.Stage.Agrees.next {stage : Stage} {cluster : Cluster} {opened opened' : Prop}
    (agrees : stage.Agrees (cluster.isReady notifier) opened) (hopen : opened → opened')
    {call : Call δ κ} (allowed : stage.allows notifier call) {reply : call.Reply}
    (hcall : ∀ kind key patch, call ≠ .patchStatus kind key patch)
    (hanswer : (cluster.answer scope refusal outside call).1 = reply)
    (hgreets : ∀ channel, (⟨call, reply⟩ : Answered δ κ) = ⟨.greet channel, .ok ()⟩ → opened') :
    (stage.next notifier call reply).Agrees (cluster.isReady notifier) opened' := by
  cases call with
  | patchStatus kind key patch => exact absurd rfl (hcall kind key patch)
  | getNotifier key =>
    obtain ⟨rfl, rfl⟩ := allowed
    rcases reply with failure | found
    · exact agrees_of_none _ _ rfl fun _ => Stage.noConfusion
    · cases found with
      | none => exact agrees_of_none _ _ rfl fun _ => Stage.noConfusion
      | some found =>
        have hfound := Cluster.eq_of_reading_eq_ok hanswer
        have hready : cluster.isReady key = found.statusOrInitial.isReady := by
          rw [Cluster.isReady, ← hfound]
          rfl
        exact agrees_of_writes rfl hready Stage.noConfusion
  | listProviders =>
    obtain ⟨found, rfl, hready⟩ := allowed
    rcases reply with failure | listed
    · exact agrees_of_none _ _ rfl fun _ => Stage.noConfusion
    · exact agrees_of_writes rfl ((agrees.writes _ _ _ rfl).trans hready) Stage.noConfusion
  | greet channel =>
    obtain ⟨found, rfl, hready⟩ := allowed
    refine agrees_of_writes rfl ((agrees.writes _ _ _ rfl).trans hready) fun h => ?_
    rcases reply with failure | value
    · cases h
    · exact hgreets channel rfl
  | notify channel message =>
    obtain ⟨provider, ip, hnext, -⟩ := allowed
    obtain ⟨found, listed, due, rfl⟩ := announces?_eq_some hnext
    have hready := agrees.writes _ _ _ rfl
    rcases reply with failure | value
    · exact agrees_of_writes rfl hready Stage.noConfusion
    · exact agrees_of_writes rfl hready Stage.noConfusion
  | patchProvider key patch =>
    obtain ⟨found, provider, ip, howes, -⟩ := allowed
    obtain ⟨listed, due, rfl⟩ := owes?_eq_some howes
    rcases reply with failure | value
    · exact agrees_of_none _ _ rfl fun _ => Stage.noConfusion
    · exact agrees_of_writes rfl (agrees.writes _ _ _ rfl) Stage.noConfusion
  | getSecret | getConfigMap | createChannel | now | elapsed | record => exact agrees.imp hopen
  | getProvider | publicIp | createClient | getIp | setIp => cases allowed

/-- Only writing a status moves the readiness. -/
theorem Scene.Sound.isReady_of_answer (sound : scene.Sound) {past : List (Answered δ κ)}
    {call : Call δ κ} {next : call.Reply → Calling δ κ Outcome} {reply : call.Reply}
    {cluster' : Cluster}
    (hbefore : scene.ongoing (.notifier notifier) = some ⟨past, .call call next⟩)
    (hcall : ∀ kind key patch, call ≠ .patchStatus kind key patch)
    (hanswer : scene.cluster.answer scope refusal outside call = (reply, cluster')) :
    cluster'.isReady = scene.cluster.isReady := by
  have lawful : Ongoing.Lawful notifier _ := sound.fits (.notifier notifier) _ hbefore
  cases call with
  | patchStatus kind key patch => exact absurd rfl (hcall kind key patch)
  | patchProvider key patch =>
    obtain ⟨found, provider, ip, -, rfl, rfl⟩ := lawful.obeys.1
    change scene.cluster.patching _ _ _ _ = _ at hanswer
    obtain ⟨failure, -, rfl⟩ | ⟨-, hpatch⟩ := Cluster.patching_cases hanswer
    · rfl
    · exact (Cluster.patch_marker sound.kept hpatch).2.1
  | _ =>
    cases hanswer
    rfl

theorem Scene.Gated.call (sound : scene.Sound) (gated : scene.Gated notifier)
    {past : List (Answered δ κ)} {call : Call δ κ} {next : call.Reply → Calling δ κ Outcome}
    {reply : call.Reply}
    (hanswer : scene.cluster.answer scope refusal outside call = (reply, scene'.cluster))
    (hbefore : scene.ongoing (.notifier notifier) = some ⟨past, .call call next⟩)
    (hongoing : scene'.ongoing (.notifier notifier) = some ⟨⟨call, reply⟩ :: past, next reply⟩)
    (hlog : scene'.log = ⟨.notifier notifier, past, .answered ⟨call, reply⟩⟩ :: scene.log) :
    scene'.Gated notifier := by
  have lawful : Ongoing.Lawful notifier _ := sound.fits (.notifier notifier) _ hbefore
  by_cases hwrites : ∃ kind key patch, call = .patchStatus kind key patch
  · obtain ⟨kind, key, patch, rfl⟩ := hwrites
    exact gated.write sound hanswer hbefore hongoing hlog
  · have hcall : ∀ kind key patch, call ≠ .patchStatus kind key patch :=
      fun kind key patch h => hwrites ⟨kind, key, patch, h⟩
    have hready := congrFun (sound.isReady_of_answer hbefore hcall hanswer) notifier
    have hdemotes : ¬(⟨.notifier notifier, past, .answered ⟨call, reply⟩⟩ : Entry δ κ).Demotes
      notifier := not_demotes_of_call hcall
    refine gated.quiet hready hongoing hlog hdemotes ?_
    exact (gated.agrees _ hbefore).next (Open.cons hdemotes) lawful.obeys.1 hcall
      (congrArg Prod.fst hanswer) fun channel h => .inl ⟨rfl, channel, congrArg Event.answered h⟩

/-! ### Every run -/

theorem Scene.Sound.isReady_private (sound : scene.Sound) (notifier : ObjectKey) (lane : Lane)
    (cluster' : Cluster) (hlane : lane ≠ .notifier notifier)
    (touched : scene.cluster.Touched lane cluster') :
    cluster'.isReady notifier = scene.cluster.isReady notifier :=
  touched.isReady_eq sound.kept hlane

theorem Scene.Gated.step (sound : scene.Sound) (gated : scene.Gated notifier)
    {move : Move δ κ} (respects : move.Respects (·.isReady notifier)) :
    (scene.step scope move).Gated notifier := by
  cases sound.change (fun lane cluster' _ => sound.isReady_private notifier lane cluster') respects with
  | aside hview hongoing hlog =>
    have hopen : Open notifier (scene.step scope move).log ↔ Open notifier scene.log := by
      rcases hlog with hlog | ⟨entry, hlane, hlog⟩
      · rw [hlog]
      · rw [hlog, open_cons_of_lane_ne hlane]
    refine ⟨fun h => hopen.2 (gated.opened (hview.symm.trans h)), fun ongoing h => ?_⟩
    rw [hview]
    exact (gated.agrees ongoing (hongoing.symm.trans h)).imp hopen.2
  | started hcluster hlog hidle hongoing =>
    refine ⟨fun h => ?_, fun ongoing h => ?_⟩
    · rw [hlog]
      exact gated.opened (hcluster ▸ h)
    · rw [hongoing] at h
      cases h
      exact Stage.agrees_of_none _ _ rfl fun _ => Stage.noConfusion
  | ended past outcome hcluster hbefore hongoing hlog =>
    refine ⟨fun h => ?_, fun ongoing h => ?_⟩
    · rw [hlog]
      refine (gated.opened (hcluster ▸ h)).cons fun demotes => ?_
      obtain ⟨_, _, kind, key, patch, hevent⟩ := demotes
      cases hevent
    · rw [hongoing] at h
      cases h
  | called past call next reply refusal outside hanswer hbefore hongoing hlog =>
    exact gated.call sound hanswer hbefore hongoing hlog

/-! ### What the log shows -/

/-- An announcement is made in a pass that read the notifier as ready. -/
theorem Scene.Sound.read_of_notifies (sound : scene.Sound) {entry : Entry δ κ}
    (hentry : entry ∈ scene.log) (h : entry.Notifies notifier) : ∃ found,
      Pass.readings entry.past = [.ok (some found)] ∧ found.statusOrInitial.isReady = true := by
  obtain ⟨hlane, channel, message, reply, hevent⟩ := h
  obtain ⟨allowed, lawful⟩ := sound.recorded entry hentry notifier hlane _ hevent
  obtain ⟨provider, ip, hnext, -⟩ := allowed
  obtain ⟨found, listed, due, hstage⟩ := Stage.announces?_eq_some hnext
  have told := Stage.tells lawful
  rw [hstage] at told
  exact ⟨found, told.1, told.2.2.2.2.1⟩

def Scene.Orderly (notifier : ObjectKey) (scene : Scene δ κ) : Prop :=
  ∀ entry earlier, entry :: earlier <:+ scene.log → entry.Notifies notifier → Open notifier earlier

theorem Scene.Orderly.cons (orderly : scene.Orderly notifier) {entry : Entry δ κ}
    (h : entry.Notifies notifier → Open notifier scene.log) (hlog : scene'.log = entry :: scene.log) :
    scene'.Orderly notifier := by
  intro other earlier hsuffix
  rw [hlog, List.suffix_cons_iff] at hsuffix
  rcases hsuffix with heq | hsuffix
  · cases heq
    exact h
  · exact orderly other earlier hsuffix

theorem Scene.Gated.open_of_notifies (sound : scene.Sound) (gated : scene.Gated notifier)
    {past : List (Answered δ κ)} {call : Call δ κ} {next : call.Reply → Calling δ κ Outcome}
    (hbefore : scene.ongoing (.notifier notifier) = some ⟨past, .call call next⟩)
    {reply : call.Reply}
    (h : (⟨.notifier notifier, past, .answered ⟨call, reply⟩⟩ : Entry δ κ).Notifies notifier) :
    Open notifier scene.log := by
  have lawful : Ongoing.Lawful notifier _ := sound.fits (.notifier notifier) _ hbefore
  obtain ⟨-, channel, message, reply', hevent⟩ := h
  cases hevent
  obtain ⟨provider, ip, hnext, -⟩ := lawful.obeys.1
  obtain ⟨found, listed, due, hstage⟩ := Stage.announces?_eq_some hnext
  have hwrites := congrArg Stage.writes? hstage
  exact gated.opened ((gated.agrees _ hbefore).writes found true true hwrites)

theorem Scene.Orderly.step (sound : scene.Sound) (gated : scene.Gated notifier)
    (orderly : scene.Orderly notifier) {move : Move δ κ}
    (respects : move.Respects (·.isReady notifier)) :
    (scene.step scope move).Orderly notifier := by
  cases sound.change (fun lane cluster' _ => sound.isReady_private notifier lane cluster') respects with
  | aside hview hongoing hlog =>
    rcases hlog with hlog | ⟨entry, hlane, hlog⟩
    · intro entry earlier hsuffix
      exact orderly entry earlier (hlog ▸ hsuffix)
    · exact orderly.cons (fun h => absurd h.1 hlane) hlog
  | started hcluster hlog hidle hongoing =>
    intro entry earlier hsuffix
    exact orderly entry earlier (hlog ▸ hsuffix)
  | ended past outcome hcluster hbefore hongoing hlog =>
    refine orderly.cons (fun h => ?_) hlog
    obtain ⟨-, channel, message, reply, hevent⟩ := h
    cases hevent
  | called past call next reply refusal outside hanswer hbefore hongoing hlog =>
    exact orderly.cons (gated.open_of_notifies sound hbefore) hlog

/-! ### Outcomes -/

def Entry.outcome? (notifier : ObjectKey) (entry : Entry δ κ) : Option Outcome :=
  match entry.event with
  | .ended outcome => if entry.lane = .notifier notifier then some outcome else none
  | .answered _ => none

def outcomes (notifier : ObjectKey) (log : List (Entry δ κ)) : List Outcome :=
  log.filterMap (·.outcome? notifier)

def Awaits (ready : Bool) : Option (Ongoing δ κ) → Prop
  | none => ready = true
  | some ongoing => (Pass.readings ongoing.past = [] → ready = true) ∧
    ∀ found, .ok (some found) ∈ Pass.readings ongoing.past → found.statusOrInitial.isReady = true

/-- No two passes in a row have greeted, and what follows one that has finds the notifier ready. -/
structure Scene.Settled (notifier : ObjectKey) (scene : Scene δ κ) : Prop where
  chain : (outcomes notifier scene.log).IsChain fun later earlier =>
    ¬(later = .ok (.requeue 0) ∧ earlier = .ok (.requeue 0))
  awaits : (outcomes notifier scene.log).head? = some (.ok (.requeue 0)) →
    Awaits (scene.cluster.isReady notifier) (scene.ongoing (.notifier notifier))

theorem outcomes_cons_of_none {log : List (Entry δ κ)} {entry : Entry δ κ}
    (h : entry.outcome? notifier = none) : outcomes notifier (entry :: log) = outcomes notifier log :=
  List.filterMap_cons_none h

theorem Entry.outcome?_eq_none {entry : Entry δ κ} (hlane : entry.lane ≠ .notifier notifier) :
    entry.outcome? notifier = none := by
  rw [outcome?]
  split
  · exact if_neg hlane
  · rfl

theorem Awaits.call (sound : scene.Sound) {past : List (Answered δ κ)} {call : Call δ κ}
    {next : call.Reply → Calling δ κ Outcome} {reply : call.Reply}
    (hanswer : scene.cluster.answer scope refusal outside call = (reply, scene'.cluster))
    (hbefore : scene.ongoing (.notifier notifier) = some ⟨past, .call call next⟩)
    (h : Awaits (scene.cluster.isReady notifier) (some ⟨past, .call call next⟩)) :
    Awaits (scene'.cluster.isReady notifier)
      (some (⟨⟨call, reply⟩ :: past, next reply⟩ : Ongoing δ κ)) := by
  have lawful : Ongoing.Lawful notifier _ := sound.fits (.notifier notifier) _ hbefore
  have allowed := lawful.obeys.1
  have told := Stage.tells lawful.lawful
  by_cases hwrites : ∃ kind key patch, call = .patchStatus kind key patch
  · obtain ⟨kind, key, patch, rfl⟩ := hwrites
    obtain ⟨found, old, new, hstage, -⟩ := allowed
    have hread := Stage.reads_of_writes? told hstage
    refine ⟨fun hnone => ?_, h.2⟩
    change Pass.readings past = [] at hnone
    rw [hread] at hnone
    cases hnone
  · have hready := congrFun (sound.isReady_of_answer hbefore
      (fun kind key patch h => hwrites ⟨kind, key, patch, h⟩) hanswer) notifier
    rw [hready]
    cases call with
    | getNotifier key =>
      obtain ⟨hstage, rfl⟩ := allowed
      rw [show Stage.of key past = .opening from hstage] at told
      refine ⟨fun hnone => absurd hnone (List.cons_ne_nil _ _), fun found hfound => ?_⟩
      change _ ∈ reply :: Pass.readings past at hfound
      rw [told.1, List.mem_singleton] at hfound
      subst hfound
      have hfound := Cluster.eq_of_reading_eq_ok (congrArg Prod.fst hanswer)
      rw [← h.1 told.1, Cluster.isReady, ← hfound]
      rfl
    | _ => exact h

theorem Scene.Settled.step (sound : scene.Sound) (gated : scene.Gated notifier)
    (settled : scene.Settled notifier) {move : Move δ κ}
    (respects : move.Respects (·.isReady notifier)) :
    (scene.step scope move).Settled notifier := by
  cases sound.change (fun lane cluster' _ => sound.isReady_private notifier lane cluster') respects with
  | aside hview hongoing hlog =>
    have houtcomes : outcomes notifier (scene.step scope move).log = outcomes notifier scene.log :=
      filterMap_log_of_aside (fun entry => Entry.outcome?_eq_none) hlog
    refine ⟨houtcomes ▸ settled.chain, fun h => ?_⟩
    rw [hview, hongoing]
    exact settled.awaits (houtcomes ▸ h)
  | started hcluster hlog hidle hongoing =>
    refine ⟨hlog ▸ settled.chain, fun h => ?_⟩
    have hawaits := settled.awaits (hlog ▸ h)
    rw [hidle] at hawaits
    rw [hongoing, hcluster]
    exact ⟨fun _ => hawaits, fun found hfound => by cases hfound⟩
  | ended past outcome hcluster hbefore hongoing hlog =>
    have lawful : Ongoing.Lawful notifier _ := sound.fits (.notifier notifier) _ hbefore
    have told := Stage.tells lawful.lawful
    have houtcomes : outcomes notifier (scene.step scope move).log =
        outcome :: outcomes notifier scene.log := by
      rw [hlog]
      exact List.filterMap_cons_some (if_pos rfl)
    have hpromoted (h : outcome = .ok (.requeue 0)) :
        ∃ found, Stage.of notifier past = .promoted found := by
      subst h
      exact lawful.obeys.2
    refine ⟨houtcomes ▸ List.isChain_cons.2 ⟨fun earlier hearlier both => ?_, settled.chain⟩, fun h => ?_⟩
    · obtain ⟨found, hstage⟩ := hpromoted both.1
      have hawaits := settled.awaits (both.2 ▸ hearlier)
      rw [hstage] at told
      have hready : found.statusOrInitial.isReady = true := by
        rw [hbefore] at hawaits
        refine hawaits.2 found ?_
        rw [told.1]
        exact List.mem_cons_self
      rw [told.2.2.2.2] at hready
      cases hready
    · rw [houtcomes] at h
      obtain ⟨found, hstage⟩ := hpromoted (Option.some.inj h)
      rw [hongoing, hcluster]
      exact (gated.agrees _ hbefore).promoted found hstage
  | called past call next reply refusal outside hanswer hbefore hongoing hlog =>
    have houtcomes : outcomes notifier (scene.step scope move).log = outcomes notifier scene.log := by
      rw [hlog, outcomes_cons_of_none rfl]
    refine ⟨houtcomes ▸ settled.chain, fun h => ?_⟩
    have hawaits := settled.awaits (houtcomes ▸ h)
    rw [hbefore] at hawaits
    rw [hongoing]
    exact hawaits.call sound hanswer hbefore

/-! ### The gate -/

structure Scene.Guarded (notifier : ObjectKey) (scene : Scene δ κ) : Prop where
  sound : scene.Sound
  gated : scene.Gated notifier
  orderly : scene.Orderly notifier
  settled : scene.Settled notifier

theorem Scene.guarded_play {cluster : Cluster} (kept : cluster.WellKept)
    (unready : cluster.isReady notifier = false) {moves : List (Move δ κ)}
    (others : ∀ move ∈ moves, move.Respects (·.isReady notifier)) :
    ((Scene.initial cluster).play scope moves).Guarded notifier := by
  refine play_induction ⟨sound_initial kept, ⟨fun h => ?_, fun _ absurd => by cases absurd⟩,
    fun _ _ hsuffix => ?_, ⟨List.isChain_nil, fun absurd => by cases absurd⟩⟩ ?_
  · rw [show (Scene.initial cluster : Scene δ κ).cluster.isReady notifier = false from unready] at h
    cases h
  · exact absurd (List.suffix_nil.1 hsuffix) (List.cons_ne_nil _ _)
  · intro scene move hmove ⟨sound, gated, orderly, settled⟩
    have respects := others move hmove
    exact ⟨sound.step respects.tidy, gated.step sound respects, orderly.step sound gated respects,
      settled.step sound gated respects⟩

theorem exists_greeting_of_open {back earlier : List (Entry δ κ)} {demotion : Entry δ κ}
    (h : Open notifier (back ++ demotion :: earlier)) (demotes : demotion.Demotes notifier) :
    ∃ greeting ∈ back, greeting.Greets notifier := by
  induction back with
  | nil =>
    rcases h with ⟨_, channel, hgreet⟩ | ⟨hdemotes, -⟩
    · obtain ⟨_, _, kind, key, patch, hpatch⟩ := demotes
      rw [hgreet] at hpatch
      cases hpatch
    · exact absurd demotes hdemotes
  | cons entry back ih =>
    rcases h with hgreets | ⟨-, h⟩
    · exact ⟨entry, List.mem_cons_self, hgreets⟩
    · obtain ⟨greeting, hmem, hgreets⟩ := ih h
      exact ⟨greeting, List.mem_cons_of_mem _ hmem, hgreets⟩

/-- A notifier becomes ready only by a pass whose greeting was delivered. -/
theorem Scene.Sound.greeted_of_ready (sound : scene.Sound) {move : Move δ κ}
    (respects : move.Respects (·.isReady notifier))
    (hunready : scene.cluster.isReady notifier = false)
    (hready : (scene.step scope move).cluster.isReady notifier = true) :
    ∃ entry, (scene.step scope move).log = entry :: scene.log ∧ entry.lane = .notifier notifier ∧
      true ∈ Pass.greetings entry.past := by
  have hmoved : (scene.step scope move).cluster.isReady notifier ≠
      scene.cluster.isReady notifier := by
    rw [hready, hunready]
    decide
  cases sound.change (fun lane cluster' _ => sound.isReady_private notifier lane cluster') respects with
  | aside hview hongoing hlog => exact absurd hview hmoved
  | started hcluster hlog hidle hongoing => exact absurd (congrArg (·.isReady notifier) hcluster) hmoved
  | ended past outcome hcluster hbefore hongoing hlog =>
    exact absurd (congrArg (·.isReady notifier) hcluster) hmoved
  | called past call next reply refusal outside hanswer hbefore hongoing hlog =>
    refine ⟨_, hlog, rfl, ?_⟩
    by_cases hwrites : ∃ kind key patch, call = .patchStatus kind key patch
    · obtain ⟨kind, key, patch, rfl⟩ := hwrites
      have lawful : Ongoing.Lawful notifier _ := sound.fits (.notifier notifier) _ hbefore
      have told := Stage.tells lawful.lawful
      rcases sound.write_cases hanswer hbefore with
        ⟨failure, -, hcluster⟩ | ⟨-, found, old, new, hstage, ⟨hnew, hold⟩ | ⟨hsame, -⟩⟩
      · exact absurd (congrArg (·.isReady notifier) hcluster) hmoved
      · obtain rfl := hready.symm.trans hnew
        obtain rfl := hold rfl
        change true ∈ Pass.greetings past
        rw [Stage.eq_greeted_of_writes? hstage] at told
        rw [told.2.2.1]
        exact List.mem_cons_self
      · exact absurd hsame hmoved
    · have hsame := sound.isReady_of_answer hbefore
        (fun kind key patch h => hwrites ⟨kind, key, patch, h⟩) hanswer
      exact absurd (congrFun hsame notifier) hmoved

/-- The readiness gate. Announcements are made only in a pass that read the notifier as ready; the
notifier becomes ready only by a pass whose greeting was delivered; and no pass both greets and
announces. Where nobody else writes the readiness, a greeting is delivered between a demotion and a
later announcement, and of two passes in a row only one ends by asking for the next at once. -/
theorem readiness_gates_announcements (scope : Option String) {cluster : Cluster}
    (kept : cluster.WellKept) (notifier : ObjectKey) (unready : cluster.isReady notifier = false)
    (moves : List (Move δ κ)) (tidy : ∀ move ∈ moves, move.Tidy) :
    let scene := (Scene.initial cluster).play scope moves
    (∀ entry ∈ scene.log, entry.Notifies notifier → ∃ found,
      Pass.readings entry.past = [.ok (some found)] ∧ found.statusOrInitial.isReady = true) ∧
    (∀ move, move.Respects (·.isReady notifier) → scene.cluster.isReady notifier = false →
      (scene.step scope move).cluster.isReady notifier = true →
        ∃ entry, (scene.step scope move).log = entry :: scene.log ∧
          entry.lane = .notifier notifier ∧ true ∈ Pass.greetings entry.past) ∧
    (∀ entry ∈ scene.log, entry.lane = .notifier notifier → ∀ answered,
      entry.event = .answered answered → Pass.greetings (answered :: entry.past) = [] ∨
        Pass.notices (answered :: entry.past) = []) ∧
    ((∀ move ∈ moves, move.Respects (·.isReady notifier)) →
      (∀ front notice back demotion earlier,
        scene.log = front ++ notice :: (back ++ demotion :: earlier) → notice.Notifies notifier →
          demotion.Demotes notifier → ∃ greeting ∈ back, greeting.Greets notifier) ∧
      (outcomes notifier scene.log).IsChain fun later earlier =>
        ¬(later = .ok (.requeue 0) ∧ earlier = .ok (.requeue 0))) := by
  intro scene
  have sound : scene.Sound := Scene.sound_play kept tidy
  refine ⟨fun entry hentry => sound.read_of_notifies hentry,
    fun move respects => sound.greeted_of_ready respects,
    fun entry hentry hlane answered hevent => ?_, fun others => ?_⟩
  · exact (Stage.tells (sound.recorded entry hentry notifier hlane answered hevent)).apart
  · have guarded : scene.Guarded notifier := Scene.guarded_play kept unready others
    refine ⟨fun front notice back demotion earlier hlog hnotifies demotes => ?_, guarded.settled.chain⟩
    have hopen := guarded.orderly notice _ ⟨front, hlog.symm⟩ hnotifies
    exact exists_greeting_of_open hopen demotes

/-- A hook is greeted in vain, greeted, told in vain, greeted again and told. -/
theorem readiness_gates_announcements_at_home :
    let hook := Home.key "hook"
    let moves := Home.round "192.0.2.1" [.greet] [.notifier hook] ++
      Home.round "192.0.2.1" [] [.notifier hook] ++
      Home.round "192.0.2.1" [.notify] [.notifier hook] ++
      Home.round "192.0.2.1" [] [.notifier hook] ++ Home.round "192.0.2.1" [] [.notifier hook]
    let scene := (Scene.initial Home.cluster).play none moves
    (∀ move ∈ moves, move.Tidy) ∧ (∀ move ∈ moves, move.Respects (·.isReady hook)) ∧
      (outcomes hook scene.log).map (·.isOk) = [true, true, false, true, false] ∧
      (∀ entry ∈ scene.log, entry.Notifies hook → ∃ found,
        Pass.readings entry.past = [.ok (some found)] ∧ found.statusOrInitial.isReady = true) ∧
      (outcomes hook scene.log).IsChain fun later earlier =>
        ¬(later = .ok (.requeue 0) ∧ earlier = .ok (.requeue 0)) := by
  intro hook moves
  have others : ∀ move ∈ moves, move.Respects (·.isReady hook) := by
    intro move hmove
    simp only [moves, List.mem_append] at hmove
    rcases hmove with (((h | h) | h) | h) | h <;> exact Home.respects_of_mem_round _ h
  have tidy : ∀ move ∈ moves, move.Tidy := fun move hmove => (others move hmove).tidy
  have houtcomes : (outcomes hook ((Scene.initial Home.cluster).play none moves).log).map (·.isOk) =
      [true, true, false, true, false] := by
    decide +kernel
  obtain ⟨hread, -, -, hgate⟩ := readiness_gates_announcements none Home.wellKept_cluster hook
    (by decide +kernel) moves tidy
  exact ⟨tidy, others, houtcomes, hread, (hgate others).2⟩

end DynamicDns
