import DynamicDns.Proofs.Pass.Reconciled
import DynamicDns.Proofs.Run.Sound

/-!
# The generation that is observed along a run

The passes over a resource take turns in its lane. After any of their calls a user may give the
resource another specification, which gets another generation, and any call may fail. A pass still
works on the resource that it read at its start; so the generation that is observed is always one that
a pass has reconciled, though it may no longer be the one that is stored.
-/

namespace DynamicDns

open Pass (Outcome)

variable {δ κ σ τ : Type}

/-! ### Runs in one lane -/

/-- There are passes in one lane only, and whoever else changes the cluster keeps its objects where they
belong and a view as it is. -/
structure Move.Within {β : Type} (lane : Lane) (view : Cluster → β) (move : Move δ κ) : Prop where
  alone : ∀ other, move.lane? = some other → other = lane
  respects : move.Respects view

theorem Scene.mem_log_step {scope : Option String} {scene : Scene δ κ} {entry : Entry δ κ}
    (h : entry ∈ scene.log) (move : Move δ κ) : entry ∈ (scene.step scope move).log := by
  cases move with
  | elsewhere change => exact h
  | start lane =>
    rw [step, start]
    split <;> exact h
  | advance lane refusal outside =>
    rw [step, advance]
    split
    · exact h
    · exact List.mem_cons_of_mem _ h
    · exact List.mem_cons_of_mem _ h

/-- A call of a pass is logged with what the pass had done before. -/
theorem Scene.exists_mem_log_advance (scope : Option String) {scene : Scene δ κ} {lane : Lane}
    {past : List (Answered δ κ)} {call : Call δ κ} {next : call.Reply → Calling δ κ Outcome}
    (hlane : scene.ongoing lane = some ⟨past, .call call next⟩) (refusal : Option Failure)
    (outside : (call : Call δ κ) → call.Reply) :
    ∃ event, ⟨lane, past, event⟩ ∈ (scene.step scope (.advance lane refusal outside)).log := by
  simp [step, advance, hlane]

variable [Codec σ] [Status τ] [Observing τ] [Shelved σ τ]

/-! ### Edits -/

def Resource.respecified (spec : σ) (r : Resource σ τ) : Resource σ τ :=
  { r with spec, metadata := { r.metadata with generation := some (r.generation + 1) } }

namespace Cluster

variable (τ) in
def respecify (key : ObjectKey) (spec : σ) (cluster : Cluster) : Cluster :=
  match (cluster.stored? key : Option (Resource σ τ)) with
  | some r => cluster.store key (r.respecified spec)
  | none => cluster

variable {cluster : Cluster}

theorem observed_respecify (key : ObjectKey) (spec : σ) :
    (cluster.respecify τ key spec).observed τ key = cluster.observed τ key := by
  rw [respecify, observed, observed]
  cases hstored : (cluster.stored? key : Option (Resource σ τ)) with
  | none => simp [hstored]
  | some r => simp [stored?_store, Resource.respecified, Resource.observed, Resource.statusOrInitial]

theorem WellKept.respecifyProvider (kept : cluster.WellKept) (key : ObjectKey)
    (spec : ProviderSpec) : (cluster.respecify ProviderStatus key spec).WellKept := by
  rw [respecify]
  split
  · rename_i provider hstored
    have own : provider.key = key := kept.providers.keyOf_of_get? hstored
    have ordered : provider.metadata.Ordered := kept.ordered hstored
    exact kept.putProvider own ordered
  · exact kept

theorem WellKept.respecifyNotifier (kept : cluster.WellKept) (key : ObjectKey)
    (spec : NotifierSpec) : (cluster.respecify NotifierStatus key spec).WellKept := by
  rw [respecify]
  split
  · rename_i notifier hstored
    have own : notifier.key = key := kept.notifiers.keyOf_of_get? hstored
    exact kept.putNotifier own
  · exact kept

end Cluster

/-! ### What the passes over a resource keep to -/

variable {scope : Option String} {key : ObjectKey} {duty : Duty δ κ σ τ} {scene : Scene δ κ}
  {move : Move δ κ}

def Duty.Met (duty : Duty δ κ σ τ) (scope : Option String) (key : ObjectKey) : Prop :=
  ∀ cluster : Cluster, cluster.WellKept →
    (duty.lane.pass : Calling δ κ Outcome).Obeys (duty.rules scope key) (duty.Ends key) ⟨cluster, []⟩

/-- A pass that is going on keeps to its duty from here on, whatever others make of the cluster but for
the generation that is observed. -/
def Scene.Minding (duty : Duty δ κ σ τ) (scope : Option String) (key : ObjectKey)
    (scene : Scene δ κ) : Prop :=
  ∀ ongoing, scene.ongoing duty.lane = some ongoing → ∀ cluster : Cluster, cluster.WellKept →
    cluster.observed τ key = scene.cluster.observed τ key →
      ongoing.rest.Obeys (duty.rules scope key) (duty.Ends key) ⟨cluster, ongoing.past.reverse⟩

theorem Scene.Minding.step (met : duty.Met scope key) (sound : scene.Sound)
    (minding : scene.Minding duty scope key) (within : move.Within duty.lane (·.observed τ key)) :
    (scene.step scope move).Minding duty scope key := by
  cases move with
  | elsewhere change =>
    intro ongoing hongoing cluster kept hview
    exact minding ongoing hongoing cluster kept (hview.trans (within.respects _ sound.kept).2)
  | start lane =>
    obtain rfl := within.alone lane rfl
    rw [Scene.step, Scene.start]
    split
    · exact minding
    · intro ongoing hongoing cluster kept _
      obtain rfl := Option.some.inj ((Function.update_self duty.lane _ scene.ongoing).symm.trans hongoing)
      exact met cluster kept
  | advance lane refusal outside =>
    obtain rfl := within.alone lane rfl
    rw [Scene.step, Scene.advance]
    split
    · exact minding
    · intro ongoing hongoing
      cases (Function.update_self duty.lane _ scene.ongoing).symm.trans hongoing
    · rename_i past call next hlane
      intro ongoing hongoing cluster kept hview
      obtain rfl := Option.some.inj ((Function.update_self duty.lane _ scene.ongoing).symm.trans hongoing)
      have obeys := minding _ hlane scene.cluster sound.kept rfl
      apply obeys.2
      exact ⟨_, ⟨refusal, outside, rfl⟩, hview, List.reverse_cons⟩

/-- A move leaves alone what is observed, unless it is a call of a pass that has reconciled what it
read. -/
theorem Scene.Minding.observed_step (sound : scene.Sound) (minding : scene.Minding duty scope key)
    (within : move.Within duty.lane (·.observed τ key)) :
    (scene.step scope move).cluster.observed τ key = scene.cluster.observed τ key ∨
      ∃ refusal outside past call next found, move = .advance duty.lane refusal outside ∧
        scene.ongoing duty.lane = some ⟨past, .call call next⟩ ∧ duty.Done found past.reverse ∧
          (scene.step scope move).cluster.observed τ key = some found.generation := by
  cases move with
  | elsewhere change => exact .inl (within.respects _ sound.kept).2
  | start lane =>
    rw [Scene.step, Scene.start]
    split <;> exact .inl rfl
  | advance lane refusal outside =>
    obtain rfl := within.alone lane rfl
    rw [Scene.step, Scene.advance]
    split
    · exact .inl rfl
    · exact .inl rfl
    · rename_i past call next hlane
      have permits := (minding _ hlane scene.cluster sound.kept rfl).1
      rcases permits _ _ ⟨refusal, outside, rfl⟩ with same | ⟨found, done, written⟩
      · exact .inl same
      · exact .inr ⟨refusal, outside, past, call, next, found, rfl, hlane, done, written⟩

/-- What is observed of a resource is what its passes have reconciled: where it is not what it was at
the start, a pass had done all that the resource that it read asks for, and wrote its generation. It
changes only so, and a pass that is through with its resource leaves its generation there. -/
structure Duty.Upheld (duty : Duty δ κ σ τ) (scope : Option String) (key : ObjectKey)
    (start : Cluster) (scene : Scene δ κ) : Prop where
  backed : scene.cluster.observed τ key = start.observed τ key ∨
    ∃ entry ∈ scene.log, entry.lane = duty.lane ∧ ∃ found, duty.Done found entry.past.reverse ∧
      scene.cluster.observed τ key = some found.generation
  changes : ∀ move : Move δ κ, move.Within duty.lane (·.observed τ key) →
    (scene.step scope move).cluster.observed τ key ≠ scene.cluster.observed τ key →
      ∃ refusal outside past call next found, move = .advance duty.lane refusal outside ∧
        scene.ongoing duty.lane = some ⟨past, .call call next⟩ ∧ duty.Done found past.reverse ∧
          (scene.step scope move).cluster.observed τ key = some found.generation
  settles : ∀ past next found, scene.ongoing duty.lane = some ⟨past, .done (.ok next)⟩ →
    duty.Through next → past.getLast? = some (duty.reading found) →
      scene.cluster.observed τ key = some found.generation

theorem Duty.upheld_play (met : duty.Met scope key) {cluster : Cluster} (kept : cluster.WellKept)
    {moves : List (Move δ κ)} (within : ∀ move ∈ moves, move.Within duty.lane (·.observed τ key)) :
    duty.Upheld scope key cluster ((Scene.initial cluster).play scope moves) := by
  let Backed (scene : Scene δ κ) : Prop :=
    scene.cluster.observed τ key = cluster.observed τ key ∨
      ∃ entry ∈ scene.log, entry.lane = duty.lane ∧ ∃ found, duty.Done found entry.past.reverse ∧
        scene.cluster.observed τ key = some found.generation
  have hplay : ((Scene.initial cluster).play scope moves : Scene δ κ).Sound ∧
      ((Scene.initial cluster).play scope moves).Minding duty scope key ∧
        Backed ((Scene.initial cluster).play scope moves) := by
    refine Scene.play_induction
      (motive := fun scene => scene.Sound ∧ scene.Minding duty scope key ∧ Backed scene) ?_ ?_
    · refine ⟨Scene.sound_initial kept, ?_, .inl rfl⟩
      intro ongoing absurd
      cases absurd
    · intro scene move hmove ⟨sound, minding, backed⟩
      have hwithin := within move hmove
      refine ⟨sound.step hwithin.respects.tidy, minding.step met sound hwithin, ?_⟩
      rcases minding.observed_step sound hwithin with
        same | ⟨refusal, outside, past, call, next, found, rfl, hlane, done, written⟩
      · rcases backed with hstart | ⟨entry, hentry, hlane, found, done, hfound⟩
        · exact .inl (same.trans hstart)
        · exact .inr ⟨entry, Scene.mem_log_step hentry move, hlane, found, done, same.trans hfound⟩
      · obtain ⟨event, hevent⟩ := Scene.exists_mem_log_advance scope hlane refusal outside
        exact .inr ⟨_, hevent, rfl, found, done, written⟩
  obtain ⟨sound, minding, backed⟩ := hplay
  refine ⟨backed, ?_, ?_⟩
  · intro move hwithin changed
    exact (minding.observed_step sound hwithin).resolve_left changed
  · intro past next found hlane through hread
    have ends := minding _ hlane _ sound.kept rfl
    apply ends next found rfl through
    rw [List.head?_reverse, hread]

/-! ### Both kinds of resource -/

/-- What is observed never claims more than was reconciled. While the passes over a resource take turns,
fail at any call, and others change all but the generation that is observed, that generation changes
only to that of the resource as the pass that writes it read it at its start, and only once this pass
has done for this resource all that a provider or a notifier asks for. A provider pass that ends well
leaves the generation that it read as the one that is observed, and so does a notifier pass that ends
well without having greeted. -/
theorem observes_only_what_was_reconciled (scope : Option String) {cluster : Cluster}
    (kept : cluster.WellKept) (key : ObjectKey) :
    (∀ moves : List (Move δ κ),
      (∀ move ∈ moves, move.Within (.provider key 0) (·.observed ProviderStatus key)) →
        (Provider.duty δ κ key).Upheld scope key cluster
          ((Scene.initial cluster).play scope moves)) ∧
      ∀ moves : List (Move δ κ),
        (∀ move ∈ moves, move.Within (.notifier key) (·.observed NotifierStatus key)) →
          (Notifier.duty δ κ key).Upheld scope key cluster
            ((Scene.initial cluster).play scope moves) := by
  constructor
  · intro moves within
    apply Duty.upheld_play _ kept within
    exact fun _ kept => Pass.provider_answers scope key kept
  · intro moves within
    apply Duty.upheld_play _ kept within
    exact fun _ kept => Pass.notifier_answers scope key kept

namespace Home

def edited (lane : Lane) (change : Cluster → Cluster) : List (Move Unit Unit) :=
  let pass := round "192.0.2.7" [] [lane]
  pass.take 5 ++ .elsewhere change :: pass.drop 5

theorem within_of_mem_round {β : Type} (view : Cluster → β) {ip : String} {failing : List Act}
    {lane : Lane} {move : Move Unit Unit} (h : move ∈ round ip failing [lane]) :
    move.Within lane view := by
  obtain ⟨other, hother, hmove⟩ := lane?_of_mem_round h
  refine ⟨fun other' hmove' => ?_, respects_of_mem_round view h⟩
  rw [← List.mem_singleton.1 hother]
  exact Option.some.inj (hmove'.symm.trans hmove)

theorem within_of_mem_edited {β : Type} {view : Cluster → β} {lane : Lane}
    {change : Cluster → Cluster} {move : Move Unit Unit} (h : move ∈ edited lane change)
    (respects : (Move.elsewhere change : Move Unit Unit).Respects view) :
    move.Within lane view := by
  simp only [edited, List.mem_append, List.mem_cons] at h
  rcases h with h | rfl | h
  · exact within_of_mem_round view (List.mem_of_mem_take h)
  · refine ⟨fun other hother => ?_, respects⟩
    cases hother
  · exact within_of_mem_round view (List.mem_of_mem_drop h)

end Home

/-- A zone and a hook are each edited while a pass over them is going on. It observes the generation
that it read, and not the one that is stored by then. -/
theorem observes_only_what_was_reconciled_at_home :
    let zone := Home.key "zone"
    let hook := Home.key "hook"
    let zoneMoves := Home.edited (.provider zone 0)
      (Cluster.respecify ProviderStatus zone { Home.zone.spec with retryInterval := 300 })
    let hookMoves := Home.round "192.0.2.7" [] [.notifier hook] ++
      Home.edited (.notifier hook) (Cluster.respecify NotifierStatus hook Home.hook.spec)
    let zoneScene := (Scene.initial Home.cluster).play none zoneMoves
    let hookScene := (Scene.initial Home.cluster).play none hookMoves
    (∀ move ∈ zoneMoves, move.Within (.provider zone 0) (·.observed ProviderStatus zone)) ∧
      (∀ move ∈ hookMoves, move.Within (.notifier hook) (·.observed NotifierStatus hook)) ∧
      (zoneScene.cluster.observed ProviderStatus zone = some 0 ∧
        (zoneScene.cluster.stored? zone : Option Provider).map Resource.generation = some 1) ∧
      (hookScene.cluster.observed NotifierStatus hook = some 0 ∧
        (hookScene.cluster.stored? hook : Option Notifier).map Resource.generation = some 1) ∧
      (Provider.duty Unit Unit zone).Upheld none zone Home.cluster zoneScene ∧
      (Notifier.duty Unit Unit hook).Upheld none hook Home.cluster hookScene := by
  intro zone hook zoneMoves hookMoves zoneScene hookScene
  have zoneWithin : ∀ move ∈ zoneMoves,
      move.Within (.provider zone 0) (·.observed ProviderStatus zone) := by
    intro move hmove
    apply Home.within_of_mem_edited hmove
    exact fun cluster kept => ⟨kept.respecifyProvider zone _, Cluster.observed_respecify zone _⟩
  have hookWithin : ∀ move ∈ hookMoves,
      move.Within (.notifier hook) (·.observed NotifierStatus hook) := by
    intro move hmove
    rcases List.mem_append.1 hmove with hmove | hmove
    · exact Home.within_of_mem_round _ hmove
    · apply Home.within_of_mem_edited hmove
      exact fun cluster kept => ⟨kept.respecifyNotifier hook _, Cluster.observed_respecify hook _⟩
  have upheld := observes_only_what_was_reconciled (δ := Unit) (κ := Unit) none Home.wellKept_cluster
  refine ⟨zoneWithin, hookWithin, ?_, ?_, (upheld zone).1 zoneMoves zoneWithin,
    (upheld hook).2 hookMoves hookWithin⟩
  · decide +kernel
  · decide +kernel

end DynamicDns
