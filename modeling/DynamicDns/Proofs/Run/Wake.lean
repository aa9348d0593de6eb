import DynamicDns.Controller
import DynamicDns.Proofs.Run.Attempt
import DynamicDns.Proofs.Run.Deliveries

/-!
# Which notifiers a provider wakes

When a provider changes, a pass is planned for each notifier that it refers to, and the pass over a
notifier looks at those providers that refer to it. Both read the same references, so a provider
wakes exactly the notifiers that look at it (`mem_notifiers_iff`). Notifiers are not looked at
otherwise, so nothing else would make up for a wake-up that is missed: whoever tells of a provider or
marks it was woken by it, and whoever is woken tells of it unless something fails before.
-/

namespace DynamicDns

open Pass

variable {δ κ : Type}

/-- A provider refers to the notifiers that it wakes, and to no others. -/
theorem mem_notifiers_iff {provider : Provider} {key : ObjectKey} :
    key ∈ provider.notifiers ↔ provider.refersTo key = true := by
  obtain ⟨ns, name⟩ := key
  simp only [Provider.notifiers, Provider.refersTo, List.mem_map, List.any_eq_true, Reference.target,
    ObjectKey.mk.injEq, Bool.and_eq_true, beq_iff_eq]
  constructor
  · rintro ⟨reference, hmem, hns, hname⟩
    exact ⟨reference, hmem, hname, hns⟩
  · rintro ⟨reference, hmem, hname, hns⟩
    exact ⟨reference, hmem, hns, hname⟩

/-! ### Planned passes -/

def Plan.Due (plan : Plan) (time : Nat) (key : ObjectKey) : Prop :=
  ∃ entry ∈ plan, entry.2 = key ∧ entry.1 ≤ time

theorem Plan.due_ask (plan : Plan) (time later : Nat) (key other : ObjectKey) :
    (plan.ask time key).Due later other ↔ plan.Due later other ∨ other = key ∧ time ≤ later := by
  rw [Plan.ask]
  split
  · rename_i planned
    simp only [List.any_eq_true, Bool.and_eq_true, decide_eq_true_eq] at planned
    obtain ⟨entry, hmem, hkey, hearly⟩ := planned
    constructor
    · exact .inl
    · rintro (due | ⟨rfl, hle⟩)
      · exact due
      · exact ⟨entry, hmem, hkey, Nat.le_trans hearly hle⟩
  · rename_i unplanned
    simp only [List.any_eq_true, Bool.and_eq_true, decide_eq_true_eq, not_exists, not_and,
      Nat.not_le] at unplanned
    simp only [Due, List.mem_append, List.mem_filter, decide_eq_true_eq, List.mem_singleton]
    constructor
    · rintro ⟨entry, ⟨hmem, -⟩ | rfl, rfl, hle⟩
      · exact .inl ⟨entry, hmem, rfl, hle⟩
      · exact .inr ⟨rfl, hle⟩
    · rintro (⟨entry, hmem, rfl, hle⟩ | ⟨rfl, hle⟩)
      · by_cases hkey : entry.2 = key
        · have := unplanned entry hmem hkey
          exact ⟨(time, key), .inr rfl, hkey.symm, by simp only; omega⟩
        · exact ⟨entry, .inl ⟨hmem, hkey⟩, rfl, hle⟩
      · exact ⟨(time, other), .inr rfl, rfl, hle⟩

namespace Controller

variable {controller : Controller} {state : State} {time later : Nat} {key : ObjectKey}

theorem due_wake (keys : List ObjectKey) :
    (wake state time keys).plan.Due later key ↔
      state.plan.Due later key ∨ (key ∈ keys ∧ key ∈ state.known) ∧ time ≤ later := by
  rw [wake]
  induction keys generalizing state with
  | nil => simp
  | cons first rest ih =>
    rw [List.foldl_cons]
    by_cases known : first ∈ state.known
    · have step := @ih { state with plan := state.plan.ask time first }
      rw [if_pos (by simpa using known)]
      rw [step, Plan.due_ask, List.mem_cons]
      constructor
      · rintro ((due | ⟨rfl, hle⟩) | ⟨⟨hmem, hknown⟩, hle⟩)
        · exact .inl due
        · exact .inr ⟨⟨.inl rfl, known⟩, hle⟩
        · exact .inr ⟨⟨.inr hmem, hknown⟩, hle⟩
      · rintro (due | ⟨⟨rfl | hmem, hknown⟩, hle⟩)
        · exact .inl (.inl due)
        · exact .inl (.inr ⟨rfl, hle⟩)
        · exact .inr ⟨⟨hmem, hknown⟩, hle⟩
    · rw [if_neg (by simpa using known), ih, List.mem_cons]
      have hne (hknown : key ∈ state.known) : key ≠ first := by
        rintro rfl
        exact known hknown
      constructor
      · exact Or.imp_right fun h => ⟨⟨.inr h.1.1, h.1.2⟩, h.2⟩
      · exact Or.imp_right fun h => ⟨⟨h.1.1.resolve_left (hne h.1.2), h.1.2⟩, h.2⟩

/-- News of a provider plans a pass at once for each notifier that it refers to and that is known. -/
theorem due_hear (hkind : controller.kind = .notifier) {provider : Provider}
    (sees : controller.sees provider.key = true) {news : News}
    (hnews : news = .provider provider ∨ news = .providerGone provider) :
    (controller.hear time state news).plan.Due time key ↔
      state.plan.Due time key ∨ provider.refersTo key = true ∧ key ∈ state.known := by
  have hhear : controller.hear time state news = wake state time provider.notifiers := by
    rcases hnews with rfl | rfl <;> simp [hear, News.key, sees, hkind]
  rw [hhear, due_wake, mem_notifiers_iff]
  simp

end Controller

/-! ### Whom a pass tells of a provider -/

def Call.relays : Call δ κ → Bool
  | .notify _ _ | .patchProvider _ _ => true
  | _ => false

def Call.Concerns (key : ObjectKey) (provider : Provider) : Call δ κ → Prop
  | .notify _ message => message = announcement (provider, provider.statusOrInitial.providerIp)
  | .patchProvider k patch =>
    k = provider.key ∧ patch = key.marker.patch provider.statusOrInitial.providerIp
  | _ => False

/-- What tells of a provider, or marks one, is a pass over a notifier that the provider refers to. -/
def Entry.Woken (entry : Entry δ κ) : Prop :=
  ∀ answered, entry.event = .answered answered → answered.call.relays = true →
    ∃ key listed provider, entry.lane = .notifier key ∧ listings entry.past = [.ok listed] ∧
      provider ∈ listed ∧ key ∈ provider.notifiers ∧ answered.call.Concerns key provider

theorem Ongoing.Fits.woken {lane : Lane} {past : List (Answered δ κ)} {call : Call δ κ}
    {next : call.Reply → Calling δ κ Outcome}
    (fits : (⟨past, .call call next⟩ : Ongoing δ κ).Fits lane) (reply : call.Reply) :
    (⟨lane, past, .answered ⟨call, reply⟩⟩ : Entry δ κ).Woken := by
  intro answered hevent relays
  cases hevent
  cases lane with
  | provider key number =>
    obtain ⟨phase, -, allowed, -⟩ := fits
    cases call with
    | notify | patchProvider => cases allowed
    | _ => cases relays
  | notifier key =>
    have lawful : Ongoing.Lawful key _ := fits
    have told := Stage.tells lawful.lawful
    have among {notifier : Notifier} {listed : List Provider} {due : List (Provider × String)}
        {provider : Provider} {ip : String}
        (hdue : (provider, ip) :: due <:+ dueAmong key (Marker.ofNotifier notifier) listed) :
        provider ∈ listed ∧ key ∈ provider.notifiers ∧ provider.statusOrInitial.providerIp = ip := by
      obtain ⟨hlisted, hrefers, hpending⟩ := mem_dueAmong (hdue.mem List.mem_cons_self)
      exact ⟨hlisted, mem_notifiers_iff.2 hrefers, (pending?_eq_some hpending).1⟩
    cases call with
    | notify channel message =>
      obtain ⟨provider, ip, hnext, rfl⟩ := lawful.obeys.1
      obtain ⟨notifier, listed, due, hstage⟩ := Stage.announces?_eq_some hnext
      rw [hstage] at told
      obtain ⟨-, hlistings, -, -, -, hdue⟩ := told
      obtain ⟨hlisted, hrefers, rfl⟩ := among hdue
      exact ⟨key, listed, provider, rfl, hlistings, hlisted, hrefers, rfl⟩
    | patchProvider k patch =>
      obtain ⟨notifier, provider, ip, howes, rfl, rfl⟩ := lawful.obeys.1
      rw [Marker.ofNotifier_eq (lawful.key_of_owes? howes)]
      obtain ⟨listed, due, hstage⟩ := Stage.owes?_eq_some howes
      rw [hstage] at told
      obtain ⟨-, hlistings, -, -, -, hdue⟩ := told
      obtain ⟨hlisted, hrefers, rfl⟩ := among hdue
      exact ⟨key, listed, provider, rfl, hlistings, hlisted, hrefers, rfl, rfl⟩
    | _ => cases relays

variable {scope : Option String} {scene : Scene δ κ}

theorem Scene.Sound.woken_step (sound : scene.Sound) {move : Move δ κ}
    (woken : ∀ entry ∈ scene.log, entry.Woken) :
    ∀ entry ∈ (scene.step scope move).log, entry.Woken := by
  cases move with
  | elsewhere change => exact woken
  | start lane =>
    rw [Scene.step, Scene.start]
    split <;> exact woken
  | advance lane refusal outside =>
    rw [Scene.step, Scene.advance]
    split
    · exact woken
    · refine List.forall_mem_cons.2 ⟨fun answered hevent => ?_, woken⟩
      cases hevent
    · rename_i past call next hlane
      exact List.forall_mem_cons.2 ⟨(sound.fits lane _ hlane).woken _, woken⟩

theorem Scene.woken_play {cluster : Cluster} (kept : cluster.WellKept) {moves : List (Move δ κ)}
    (tidy : ∀ move ∈ moves, move.Tidy) :
    ∀ entry ∈ ((Scene.initial cluster).play scope moves).log, entry.Woken := by
  refine (play_induction (motive := fun scene => scene.Sound ∧ ∀ entry ∈ scene.log, entry.Woken)
    ?_ ?_).2
  · exact ⟨sound_initial kept, fun entry absurd => by cases absurd⟩
  · rintro scene move hmove ⟨sound, woken⟩
    exact ⟨sound.step (tidy move hmove), sound.woken_step woken⟩

/-! ### Whoever is woken -/

theorem dueAmong_split {key : ObjectKey} {marker : Marker} {front back : List Provider}
    {provider : Provider} {ip : String} (refers : key ∈ provider.notifiers)
    (pending : pending? marker provider = some ip) :
    dueAmong key marker (front ++ provider :: back) =
      dueAmong key marker front ++ (provider, ip) :: dueAmong key marker back := by
  simp [dueAmong, mem_notifiers_iff.1 refers, pending]

/-- A provider wakes exactly the notifiers that look at it. In every run, whoever tells of a provider
or marks it is a notifier that it refers to, as it was listed. And a ready notifier that a provider
refers to tells of it, if it has an address that is not announced, unless a call before that fails. -/
theorem wakes_whoever_tells :
    (∀ (provider : Provider) (key : ObjectKey),
      key ∈ provider.notifiers ↔ provider.refersTo key = true) ∧
    (∀ (controller : Controller) (time : Nat) (state : Controller.State) (provider : Provider)
      (news : Controller.News) (key : ObjectKey), controller.kind = .notifier →
        controller.sees provider.key = true →
        news = .provider provider ∨ news = .providerGone provider →
        ((controller.hear time state news).plan.Due time key ↔
          state.plan.Due time key ∨ key ∈ provider.notifiers ∧ key ∈ state.known)) ∧
    (∀ (scope : Option String) (cluster : Cluster) (moves : List (Move δ κ)), cluster.WellKept →
      (∀ move ∈ moves, move.Tidy) →
        ∀ entry ∈ ((Scene.initial cluster).play scope moves).log, entry.Woken) ∧
    ∀ (key : ObjectKey) (notifier : Notifier) (front back : List Provider) (provider : Provider)
      (outcome : Outcome) (past : List (Answered δ κ)),
      let ip := provider.statusOrInitial.providerIp
      let marker := Marker.ofNotifier notifier
      let number := (dueAmong key marker front).length
      notifier.statusOrInitial.isReady = true → key ∈ provider.notifiers → ip ≠ "" →
        provider.announcedTo marker ≠ some ip →
        (Pass.notifier key).Yields (Prompts notifier (front ++ provider :: back) number) [] outcome
          past →
        (texts past)[number]? = some (announcement (provider, ip)) := by
  refine ⟨fun _ _ => mem_notifiers_iff, ?_, fun _ _ _ kept tidy => Scene.woken_play kept tidy, ?_⟩
  · intro controller time state provider news key hkind sees hnews
    rw [Controller.due_hear hkind sees hnews, mem_notifiers_iff]
  · intro key notifier front back provider outcome past ip marker number ready refers hip unannounced
      yields
    have pending : pending? marker provider = some ip := by
      rw [pending?, if_neg]
      exact not_or.2 ⟨hip, unannounced⟩
    apply attempts ready yields
    rw [dueAmong_split refers pending]
    simp [number]

/-! ### A delivery that is attempted, and fails -/

namespace Home

def prompt (call : Call Unit Unit) (past : List (Answered Unit Unit)) :
    call.Reply × List (Answered Unit Unit) :=
  let reply : call.Reply :=
    match call with
    | .getNotifier _ => .ok (some readyHook)
    | .listProviders => .ok [apex, zone]
    | .notify _ _ => onlyFirst (notices past).length
    | .getProvider _ => .ok none
    | .patchStatus _ _ _ | .patchProvider _ _ | .createClient _ _ _ | .createChannel _ _ _ => .ok ()
    | .setIp _ _ | .greet _ => .ok ()
    | .getSecret _ | .getConfigMap _ => .ok default
    | .publicIp _ | .getIp _ => .ok "192.0.2.1"
    | .now => ""
    | .elapsed => 0
    | .record _ => ()
  (reply, ⟨call, reply⟩ :: past)

theorem prompts_prompt (call : Call Unit Unit) (past : List (Answered Unit Unit)) :
    Prompts readyHook [apex, zone] 1 past call (prompt call past).1 (prompt call past).2 := by
  cases call with
  | notify channel message =>
    refine ⟨fun sent => ?_, rfl⟩
    have first : notices past = [] := by
      have hlength : (notices past).length + 1 ≤ 1 := sent
      exact List.eq_nil_of_length_eq_zero (by omega)
    simp [prompt, Answered.succeeded, first, onlyFirst, Except.isOk, Except.toBool]
  | getNotifier | listProviders => exact ⟨rfl, rfl⟩
  | _ => exact ⟨fun _ => rfl, rfl⟩

theorem wakes_whoever_tells_at_home :
    let run := (Pass.notifier (key "hook")).run prompt []
    readyHook.statusOrInitial.isReady = true ∧ key "hook" ∈ zone.notifiers ∧
      zone.statusOrInitial.providerIp ≠ "" ∧
      zone.announcedTo (Marker.ofNotifier readyHook) ≠ some zone.statusOrInitial.providerIp ∧
      run.1.isOk = false ∧ (texts run.2)[1]? = some (announcement (zone, "192.0.2.1")) ∧
      ∀ entry ∈ ((Scene.initial pairCluster).play none
        (round "192.0.2.1" [] [.notifier (key "hook")])).log, entry.Woken := by
  intro run
  have ready : readyHook.statusOrInitial.isReady = true := rfl
  have refers : key "hook" ∈ zone.notifiers := by decide
  have hip : zone.statusOrInitial.providerIp ≠ "" := by decide
  have unannounced : zone.announcedTo (Marker.ofNotifier readyHook) ≠
      some zone.statusOrInitial.providerIp := by decide +kernel
  have fails : run.1.isOk = false := by decide +kernel
  have yields : (Pass.notifier (key "hook")).Yields
      (Prompts readyHook ([apex] ++ zone :: []) 1) [] run.1 run.2 :=
    Program.yields_run prompts_prompt _ _
  obtain ⟨-, -, woken, attempted⟩ := wakes_whoever_tells (δ := Unit) (κ := Unit)
  refine ⟨ready, refers, hip, unannounced, fails, ?_, ?_⟩
  · exact attempted (key "hook") readyHook [apex] [] zone run.1 run.2 ready refers hip unannounced
      yields
  · apply woken none pairCluster _ wellKept_pairCluster
    intro move hmove
    obtain ⟨lane, -, hlane⟩ := lane?_of_mem_round hmove
    exact (Move.respects_of_lane? id hlane).tidy

end Home

end DynamicDns
