import DynamicDns.Proofs.Pass.Books
import DynamicDns.Proofs.Run.Observance

/-!
# Ledgers along a run

Passes over all providers and notifiers run side by side, but the passes over one object take turns. So
the status of an object is written in one lane only, and each move leaves a ledger alone or makes one
write of the pass in its lane. What one write keeps of a ledger is kept along the whole run: no type
stands twice, no condition is removed or moved, and what a pass leaves different from what it read is
stamped with the generation that it read (`ledgers_stay_well_formed`).
-/

namespace DynamicDns

open Condition (Complete Distinct Extends Amended Revised)
open Pass (Outcome)

variable {δ κ σ τ β γ : Type}

/-! ### Runs in which passes over one object take turns -/

def Cluster.statuses (cluster : Cluster) :
    (ObjectKey → Option (Option ProviderStatus)) × (ObjectKey → Option (Option NotifierStatus)) :=
  (fun key => cluster.standing ProviderStatus key, fun key => cluster.standing NotifierStatus key)

/-- A provider has one lane, like a notifier, and whoever else changes the cluster keeps its objects
where they belong and their statuses as they are. -/
structure Move.InTurn (move : Move δ κ) : Prop where
  alone : ∀ key number, move.lane? = some (.provider key number) → number = 0
  respects : move.Respects Cluster.statuses

theorem Move.inTurn_of_lane? {move : Move δ κ} {lane : Lane} (h : move.lane? = some lane)
    (alone : ∀ key number, lane = .provider key number → number = 0) : move.InTurn := by
  refine ⟨fun key number hmove => ?_, Move.respects_of_lane? _ h⟩
  exact alone key number (Option.some.inj (h.symm.trans hmove))

theorem Move.inTurn_of_provider {move : Move δ κ} {key : ObjectKey}
    (h : move.lane? = some (.provider key 0)) : move.InTurn := by
  apply Move.inTurn_of_lane? h
  rintro other number hlane
  cases hlane
  rfl

theorem Move.Respects.map {view : Cluster → β} {move : Move δ κ} (respects : move.Respects view)
    (f : β → γ) : move.Respects fun cluster => f (view cluster) := by
  cases move with
  | elsewhere change =>
    intro cluster kept
    obtain ⟨kept', same⟩ := respects cluster kept
    exact ⟨kept', congrArg f same⟩
  | start | advance => trivial

/-! ### Who writes a status -/

namespace Cluster

theorem standing_store [Codec σ] [Status τ] [Shelved σ τ] (cluster : Cluster) (key other : ObjectKey)
    (resource : Resource σ τ) : (cluster.store key resource).standing τ other =
      if key = other then some resource.status else cluster.standing τ other := by
  rw [standing, stored?_store, standing]
  split <;> rfl

variable {cluster cluster' : Cluster} {lane : Lane} {key : ObjectKey}

/-- The status of a provider is written in its own lanes. -/
theorem Touched.providerStanding_eq (touched : cluster.Touched lane cluster')
    (hlane : ∀ number, lane ≠ .provider key number) :
    cluster'.standing ProviderStatus key = cluster.standing ProviderStatus key := by
  cases touched with
  | still => rfl
  | @providerStatus other number change _ h =>
    obtain ⟨provider, provider', -, -, rfl⟩ := patch_provider_eq_ok h
    have hne : other ≠ key := fun h => hlane number (by rw [h])
    exact (standing_store cluster other key provider').trans (if_neg hne)
  | notifierStatus h =>
    obtain ⟨notifier, notifier', -, -, rfl⟩ := patch_notifier_eq_ok h
    rfl
  | @marker notifier other ip _ h =>
    obtain ⟨provider, provider', hfound, hpatched, rfl⟩ := patch_provider_eq_ok h
    have hstatus : provider'.status = provider.status := by
      rw [Resource.patched?_marker] at hpatched
      rw [← Option.some.inj hpatched]
    refine (standing_store cluster other key provider').trans ?_
    split
    · rename_i hkey
      subst hkey
      have hstored : (cluster.stored? other : Option Provider) = some provider := hfound
      rw [hstatus, standing, hstored, Option.map_some]
    · rfl

/-- The status of a notifier is written in its lane. -/
theorem Touched.notifierStanding_eq (touched : cluster.Touched lane cluster')
    (hlane : lane ≠ .notifier key) :
    cluster'.standing NotifierStatus key = cluster.standing NotifierStatus key := by
  cases touched with
  | still => rfl
  | providerStatus h | marker h =>
    obtain ⟨provider, provider', -, -, rfl⟩ := patch_provider_eq_ok h
    rfl
  | @notifierStatus other before after _ h =>
    obtain ⟨notifier, notifier', -, -, rfl⟩ := patch_notifier_eq_ok h
    have hne : other ≠ key := fun h => hlane (by rw [h])
    exact (standing_store cluster other key notifier').trans (if_neg hne)

end Cluster

/-! ### One ledger -/

variable [Codec σ] [Status τ] [Shelved σ τ] {scope : Option String} {key : ObjectKey}
  {scribe : Scribe δ κ σ τ key} {scene : Scene δ κ} {move : Move δ κ} {moves : List (Move δ κ)}

namespace Scribe

/-- The passes in the lane of a scribe keep to it, and nobody else writes the status. -/
structure Alone (scribe : Scribe δ κ σ τ key) (scope : Option String) : Prop where
  keeps : ∀ cluster : Cluster, cluster.WellKept →
    (scribe.lane.pass : Calling δ κ Outcome).Obeys (scribe.rules scope) (fun _ => scribe.Ends)
      ⟨⟨cluster, []⟩, cluster⟩
  writes : ∀ move : Move δ κ, move.InTurn → ∀ lane cluster cluster', move.lane? = some lane →
    lane ≠ scribe.lane → Cluster.Touched cluster lane cluster' →
      cluster'.standing τ key = cluster.standing τ key
  respects : ∀ move : Move δ κ, move.InTurn → move.Respects (·.standing τ key)

theorem Alone.change (alone : scribe.Alone scope) (sound : scene.Sound) (inTurn : move.InTurn) :
    scene.Change scope (·.standing τ key) scribe.lane (scene.step scope move) :=
  sound.change (fun lane cluster' => alone.writes move inTurn lane scene.cluster cluster')
    (alone.respects move inTurn)

theorem kept_of_obeys {program : Calling δ κ Outcome} {turn : Turn δ κ}
    (h : program.Obeys (scribe.rules scope) (fun _ => scribe.Ends) turn) : scribe.Kept turn := by
  cases program with
  | done outcome => exact Ends.kept h
  | call request next => exact h.1

end Scribe

/-- The pass that is going on keeps to its scribe, whatever others make of the cluster but for the
status. -/
def Scene.Scribing (scribe : Scribe δ κ σ τ key) (scope : Option String) (scene : Scene δ κ) : Prop :=
  ∀ ongoing, scene.ongoing scribe.lane = some ongoing → ∀ cluster : Cluster, cluster.WellKept →
    cluster.standing τ key = scene.cluster.standing τ key → ∃ before,
      ongoing.rest.Obeys (scribe.rules scope) (fun _ => scribe.Ends)
        ⟨⟨cluster, ongoing.past.reverse⟩, before⟩

namespace Scene.Scribing

theorem called (scribing : scene.Scribing scribe scope) (sound : scene.Sound)
    {past : List (Answered δ κ)} {call : Call δ κ} {next : call.Reply → Calling δ κ Outcome}
    {reply : call.Reply} {refusal : Option Failure} {outside : (call : Call δ κ) → call.Reply}
    {cluster : Cluster}
    (hanswer : scene.cluster.answer scope refusal outside call = (reply, cluster))
    (hbefore : scene.ongoing scribe.lane = some ⟨past, .call call next⟩) {cluster' : Cluster}
    (same : cluster'.standing τ key = cluster.standing τ key) :
    (next reply).Obeys (scribe.rules scope) (fun _ => scribe.Ends)
      ⟨⟨cluster', (⟨call, reply⟩ :: past).reverse⟩, scene.cluster⟩ := by
  obtain ⟨before, obeys⟩ := scribing _ hbefore scene.cluster sound.kept rfl
  apply obeys.2
  exact ⟨rfl, cluster, ⟨refusal, outside, hanswer⟩, same, List.reverse_cons⟩

theorem step (scribing : scene.Scribing scribe scope) (alone : scribe.Alone scope)
    (sound : scene.Sound) (inTurn : move.InTurn) :
    (scene.step scope move).Scribing scribe scope := by
  intro ongoing hongoing cluster kept same
  cases alone.change sound inTurn with
  | aside hview hsame hlog =>
    exact scribing ongoing (hsame.symm.trans hongoing) cluster kept (same.trans hview)
  | started hcluster hlog hidle hstarted =>
    cases hstarted.symm.trans hongoing
    exact ⟨cluster, alone.keeps cluster kept⟩
  | ended past outcome hcluster hbefore hended hlog => cases hended.symm.trans hongoing
  | called past call next reply refusal outside hanswer hbefore hcalled hlog =>
    cases hcalled.symm.trans hongoing
    exact ⟨scene.cluster, scribing.called sound hanswer hbefore same⟩

/-- A move leaves a ledger alone, or it is a write of the pass over what it has read. -/
theorem ledger_step (scribing : scene.Scribing scribe scope) (alone : scribe.Alone scope)
    (sound : scene.Sound) (inTurn : move.InTurn) :
    (scene.step scope move).cluster.ledger τ key = scene.cluster.ledger τ key ∨
      ∃ ongoing found before after,
        (scene.step scope move).ongoing scribe.lane = some ongoing ∧
        ongoing.past.getLast? = some (scribe.reading found) ∧
        scene.cluster.ledger τ key = some before ∧
        (scene.step scope move).cluster.ledger τ key = some after ∧
        scribe.Edits found.generation before after := by
  cases alone.change sound inTurn with
  | aside hview hongoing hlog => exact .inl (Cluster.ledger_eq_of_standing hview)
  | started hcluster hlog hidle hongoing => exact .inl (by rw [hcluster])
  | ended past outcome hcluster hbefore hongoing hlog => exact .inl (by rw [hcluster])
  | called past call next reply refusal outside hanswer hbefore hongoing hlog =>
    have kept := Scribe.kept_of_obeys (scribing.called sound hanswer hbefore rfl)
    rcases kept with same | ⟨found, before, after, hread, hledger, hledger', edits⟩
    · exact .inl same
    · rw [List.head?_reverse] at hread
      exact .inr ⟨_, found, before, after, hongoing, hread, hledger, hledger', edits⟩

end Scene.Scribing

/-! ### A whole run -/

/-- The passes over an object are going on as they should, and what the present pass has read of it and
what is stored differ only by what this pass wrote. -/
structure Scene.Ledgered (scribe : Scribe δ κ σ τ key) (scope : Option String) (scene : Scene δ κ) :
    Prop where
  sound : scene.Sound
  scribing : scene.Scribing scribe scope
  revises : ∀ ongoing found, scene.ongoing scribe.lane = some ongoing →
    ongoing.past.getLast? = some (scribe.reading found) → ∃ conditions,
      scene.cluster.ledger τ key = some conditions ∧
        Revised found.generation found.conditions conditions

namespace Scene.Ledgered

theorem initial (scribe : Scribe δ κ σ τ key) (scope : Option String) {cluster : Cluster}
    (kept : cluster.WellKept) : (Scene.initial cluster).Ledgered scribe scope := by
  refine ⟨Scene.sound_initial kept, fun ongoing absurd => ?_, fun ongoing found absurd => ?_⟩
  · cases absurd
  · cases absurd

/-- The last call of a pass, if it was not its first, leaves what it found revised. -/
theorem revises_called (ledgered : scene.Ledgered scribe scope) {past : List (Answered δ κ)}
    {call : Call δ κ} {next : call.Reply → Calling δ κ Outcome} {reply : call.Reply}
    {refusal : Option Failure} {outside : (call : Call δ κ) → call.Reply} {cluster : Cluster}
    {found : Resource σ τ}
    (hanswer : scene.cluster.answer scope refusal outside call = (reply, cluster))
    (hbefore : scene.ongoing scribe.lane = some ⟨past, .call call next⟩)
    (hread : (⟨call, reply⟩ :: past).getLast? = some (scribe.reading found)) :
    ∃ conditions, cluster.ledger τ key = some conditions ∧
      Revised found.generation found.conditions conditions := by
  -- What was stored before the call is revised: a pass that makes its first call has just read it
  have revised : ∃ conditions, scene.cluster.ledger τ key = some conditions ∧
      Revised found.generation found.conditions conditions := by
    cases past with
    | nil =>
      have stored := scribe.truthful ⟨refusal, outside, hanswer⟩ (Option.some.inj hread)
      exact ⟨found.conditions, Cluster.ledger_of_stored stored, .refl _ _⟩
    | cons last earlier =>
      apply ledgered.revises _ found hbefore
      simpa using hread
  obtain ⟨conditions, hledger, hrevised⟩ := revised
  have kept := Scribe.kept_of_obeys (ledgered.scribing.called ledgered.sound hanswer hbefore rfl)
  rcases kept with same | ⟨other, before, after, hother, hledger', hafter, edits⟩
  · exact ⟨conditions, same.trans hledger, hrevised⟩
  · rw [List.head?_reverse, hread] at hother
    obtain rfl := scribe.injective (Option.some.inj hother)
    obtain rfl := Option.some.inj (hledger.symm.trans hledger')
    exact ⟨after, hafter, hrevised.trans (scribe.amends edits).revised⟩

theorem step (ledgered : scene.Ledgered scribe scope) (alone : scribe.Alone scope)
    (inTurn : move.InTurn) : (scene.step scope move).Ledgered scribe scope := by
  obtain ⟨sound, scribing, revises⟩ := id ledgered
  refine ⟨sound.step inTurn.respects.tidy, scribing.step alone sound inTurn, ?_⟩
  intro ongoing found hongoing hread
  cases alone.change sound inTurn with
  | aside hview hsame hlog =>
    rw [Cluster.ledger_eq_of_standing hview]
    exact revises ongoing found (hsame.symm.trans hongoing) hread
  | started hcluster hlog hidle hstarted =>
    cases hstarted.symm.trans hongoing
    cases hread
  | ended past outcome hcluster hbefore hended hlog => cases hended.symm.trans hongoing
  | called past call next reply refusal outside hanswer hbefore hcalled hlog =>
    cases hcalled.symm.trans hongoing
    exact ledgered.revises_called hanswer hbefore hread

theorem play (ledgered : scene.Ledgered scribe scope) (alone : scribe.Alone scope)
    (inTurn : ∀ move ∈ moves, move.InTurn) : (scene.play scope moves).Ledgered scribe scope :=
  Scene.play_induction ledgered fun _ move hmove h => h.step alone (inTurn move hmove)

/-- What holds between a ledger and itself, and goes on holding with each write, holds between the ledgers
before and after a run. -/
theorem ledger_play (ledgered : scene.Ledgered scribe scope) (alone : scribe.Alone scope)
    (inTurn : ∀ move ∈ moves, move.InTurn) (relation : List Condition → List Condition → Prop)
    (refl : ∀ conditions, relation conditions conditions)
    (edits : ∀ {start before after generation}, relation start before →
      scribe.Edits generation before after → relation start after) :
    Option.Rel relation (scene.cluster.ledger τ key)
      ((scene.play scope moves).cluster.ledger τ key) := by
  generalize hledger : scene.cluster.ledger τ key = start
  have hstart : Option.Rel relation start (scene.cluster.ledger τ key) := by
    rw [hledger]
    cases start with
    | none => exact .none
    | some conditions => exact .some (refl conditions)
  have hplay : (scene.play scope moves).Ledgered scribe scope ∧
      Option.Rel relation start ((scene.play scope moves).cluster.ledger τ key) := by
    apply Scene.play_induction (motive := fun scene => scene.Ledgered scribe scope ∧
      Option.Rel relation start (scene.cluster.ledger τ key)) ⟨ledgered, hstart⟩
    intro scene move hmove ⟨ledgered, related⟩
    refine ⟨ledgered.step alone (inTurn move hmove), ?_⟩
    rcases ledgered.scribing.ledger_step alone ledgered.sound (inTurn move hmove) with
      same | ⟨ongoing, found, before, after, -, -, hbefore, hafter, edit⟩
    · rwa [same]
    · rw [hbefore] at related
      rw [hafter]
      cases related with
      | some h => exact .some (edits h edit)
  exact hplay.2

/-- What each write keeps of a ledger, a run keeps. -/
theorem forall_play (ledgered : scene.Ledgered scribe scope) (alone : scribe.Alone scope)
    (inTurn : ∀ move ∈ moves, move.InTurn) {p : List Condition → Prop}
    (edits : ∀ {before after generation}, p before → scribe.Edits generation before after → p after)
    (start : ∀ conditions, scene.cluster.ledger τ key = some conditions → p conditions) :
    ∀ conditions, (scene.play scope moves).cluster.ledger τ key = some conditions → p conditions := by
  intro conditions hledger
  have related := ledgered.ledger_play alone inTurn (fun before after => p before → p after)
    (fun _ => id) fun h edit hstart => edits (h hstart) edit
  rw [hledger] at related
  generalize hbefore : scene.cluster.ledger τ key = before at related
  cases related with
  | some h => exact h (start _ hbefore)

end Scene.Ledgered

/-- The ledger of an object is well formed at a moment of a run: no type stands twice. From here on no
condition is removed or moved, and only declared types are added. The next move leaves it alone, or it
is a write of a pass, which stamps what it changes with the generation that the pass has read, and
changes no time alone. What the present pass leaves different from what it has read is stamped so, but
for placeholders; and once the pass is at its end, it leaves what it should, if its first write was not
refused. -/
structure Scribe.WellFormed (scribe : Scribe δ κ σ τ key) (scope : Option String)
    (scene : Scene δ κ) : Prop where
  distinct : ∀ conditions, scene.cluster.ledger τ key = some conditions → Distinct conditions
  grows : ∀ moves : List (Move δ κ), (∀ move ∈ moves, move.InTurn) →
    Option.Rel Extends (scene.cluster.ledger τ key) ((scene.play scope moves).cluster.ledger τ key)
  amends : ∀ move : Move δ κ, move.InTurn →
    (scene.step scope move).cluster.ledger τ key = scene.cluster.ledger τ key ∨
      ∃ ongoing found before after, (scene.step scope move).ongoing scribe.lane = some ongoing ∧
        ongoing.past.getLast? = some (scribe.reading found) ∧
        scene.cluster.ledger τ key = some before ∧
        (scene.step scope move).cluster.ledger τ key = some after ∧
        Amended found.generation before after
  revises : ∀ ongoing found, scene.ongoing scribe.lane = some ongoing →
    ongoing.past.getLast? = some (scribe.reading found) → ∃ conditions,
      scene.cluster.ledger τ key = some conditions ∧
        Revised found.generation found.conditions conditions
  leaves : ∀ past outcome found, scene.ongoing scribe.lane = some ⟨past, .done outcome⟩ →
    past.getLast? = some (scribe.reading found) → Pass.Begun past.reverse → ∃ conditions,
      scene.cluster.ledger τ key = some conditions ∧ scribe.Leaves conditions

theorem Scribe.Alone.wellFormed (alone : scribe.Alone scope) {cluster : Cluster}
    (kept : cluster.WellKept)
    (distinct : ∀ conditions, cluster.ledger τ key = some conditions → Distinct conditions)
    (inTurn : ∀ move ∈ moves, move.InTurn) :
    scribe.WellFormed scope ((Scene.initial cluster).play scope moves) := by
  have start := Scene.Ledgered.initial scribe scope kept
  have ledgered := start.play alone inTurn
  refine ⟨?_, fun more inTurn' => ?_, fun move inTurn' => ?_, ledgered.revises,
    fun past outcome found hongoing hread begun => ?_⟩
  · exact start.forall_play alone inTurn (fun h edits => scribe.distinct edits h) distinct
  · exact ledgered.ledger_play alone inTurn' Extends Extends.refl fun h edits =>
      h.trans (scribe.amends edits).revised.extends
  · rcases ledgered.scribing.ledger_step alone ledgered.sound inTurn' with
      same | ⟨ongoing, found, before, after, hongoing, hread, hbefore, hafter, edits⟩
    · exact .inl same
    · exact .inr ⟨ongoing, found, before, after, hongoing, hread, hbefore, hafter,
        scribe.amends edits⟩
  · obtain ⟨before, obeys⟩ := ledgered.scribing _ hongoing _ ledgered.sound.kept rfl
    apply Ends.leaves obeys found _ begun
    exact List.head?_reverse.trans hread

/-! ### All ledgers -/

theorem Provider.scribe_alone (scope : Option String) (key : ObjectKey) :
    (Provider.scribe δ κ key).Alone scope where
  keeps _ kept := Pass.provider_keeps_books scope key kept
  writes move inTurn lane cluster cluster' hmove hlane touched := by
    apply touched.providerStanding_eq
    rintro number rfl
    exact hlane (by rw [inTurn.alone key number hmove]; rfl)
  respects _ inTurn := inTurn.respects.map fun statuses => statuses.1 key

theorem Notifier.scribe_alone (scope : Option String) (key : ObjectKey) :
    (Notifier.scribe δ κ key).Alone scope where
  keeps _ kept := Pass.notifier_keeps_books scope key kept
  writes _ _ _ _ _ _ hlane touched := touched.notifierStanding_eq hlane
  respects _ inTurn := inTurn.respects.map fun statuses => statuses.2 key

/-- Ledgers stay well formed. Whatever fails, and however the passes over different objects interleave,
the ledger of each provider and of each notifier is well formed at every moment of a run that starts
with ledgers in which no type stands twice. A notifier pass whose first write was not refused leaves all
declared types. -/
theorem ledgers_stay_well_formed (scope : Option String) {cluster : Cluster} (kept : cluster.WellKept)
    (distinct : ∀ key conditions, (cluster.ledger ProviderStatus key = some conditions ∨
      cluster.ledger NotifierStatus key = some conditions) → Distinct conditions)
    {moves : List (Move δ κ)} (inTurn : ∀ move ∈ moves, move.InTurn) (key : ObjectKey) :
    (Provider.scribe δ κ key).WellFormed scope ((Scene.initial cluster).play scope moves) ∧
      (Notifier.scribe δ κ key).WellFormed scope ((Scene.initial cluster).play scope moves) := by
  constructor
  · apply (Provider.scribe_alone scope key).wellFormed kept _ inTurn
    exact fun conditions h => distinct key conditions (.inl h)
  · apply (Notifier.scribe_alone scope key).wellFormed kept _ inTurn
    exact fun conditions h => distinct key conditions (.inr h)

/-! ### Two passes side by side -/

theorem Cluster.statuses_respecify (cluster : Cluster) (key : ObjectKey) (spec : ProviderSpec) :
    (cluster.respecify ProviderStatus key spec).statuses = cluster.statuses := by
  rw [respecify]
  cases hstored : (cluster.stored? key : Option Provider) with
  | none => rfl
  | some provider =>
    refine Prod.ext (funext fun other => ?_) rfl
    refine (standing_store cluster key other (provider.respecified spec)).trans ?_
    split
    · rename_i hkey
      subst hkey
      change some provider.status = cluster.standing ProviderStatus key
      rw [standing, hstored, Option.map_some]
    · rfl

namespace Home

/-- A provider and a notifier take turns, the secret is not found at first, and the provider is edited
before both of them get another pass. -/
def bookkeeping : List (Move Unit Unit) :=
  let lanes : List Lane := [.provider (Home.key "zone") 0, .notifier (Home.key "hook")]
  round "192.0.2.7" [.getSecret] lanes ++
    .elsewhere (Cluster.respecify ProviderStatus (Home.key "zone") zone.spec) ::
      round "192.0.2.7" [] lanes

theorem inTurn_of_mem_bookkeeping {move : Move Unit Unit} (h : move ∈ bookkeeping) :
    move.InTurn := by
  have hround {failing : List Act} (h : move ∈ round "192.0.2.7" failing
      [.provider (Home.key "zone") 0, .notifier (Home.key "hook")]) : move.InTurn := by
    obtain ⟨lane, hlane, hmove⟩ := lane?_of_mem_round h
    apply Move.inTurn_of_lane? hmove
    rintro other number rfl
    have hzone : other = Home.key "zone" ∧ number = 0 := by simpa using hlane
    exact hzone.2
  rcases List.mem_append.1 h with h | h
  · exact hround h
  · rcases List.mem_cons.1 h with rfl | h
    · refine ⟨fun other number absurd => ?_, fun cluster kept => ?_⟩
      · cases absurd
      · exact ⟨kept.respecifyProvider _ _, Cluster.statuses_respecify _ _ _⟩
    · exact hround h

theorem distinct_cluster (other : ObjectKey) (conditions : List Condition)
    (h : cluster.ledger ProviderStatus other = some conditions ∨
      cluster.ledger NotifierStatus other = some conditions) : Distinct conditions := by
  have hempty : conditions = [] := by
    rcases h with h | h
    all_goals
      obtain ⟨r, hstored, rfl⟩ := Option.map_eq_some_iff.1 h
      have hmem := Shelf.mem_of_get? hstored
      obtain ⟨-, rfl⟩ := Prod.mk.inj (List.mem_singleton.1 hmem)
      rfl
  rw [hempty]
  exact List.nodup_nil

end Home

/-- A pass over a zone and one over a hook that miss their secret, and then two that succeed, after the
zone was edited. -/
theorem ledgers_stay_well_formed_at_home :
    let zone := Home.key "zone"
    let hook := Home.key "hook"
    let scene := (Scene.initial Home.cluster).play none Home.bookkeeping
    (∀ move ∈ Home.bookkeeping, move.InTurn) ∧
      (scene.cluster.ledger ProviderStatus zone).map Condition.types =
        some ["Secret", "ConfigMap", "Client"] ∧
      (scene.cluster.ledger NotifierStatus hook).map Condition.types =
        some ["ConfigMap", "Secret", "Client"] ∧
      (Provider.scribe Unit Unit zone).WellFormed none scene ∧
      (Notifier.scribe Unit Unit hook).WellFormed none scene := by
  dsimp only
  have inTurn (move : Move Unit Unit) (h : move ∈ Home.bookkeeping) : move.InTurn :=
    Home.inTurn_of_mem_bookkeeping h
  have wellFormed (key : ObjectKey) :=
    ledgers_stay_well_formed none Home.wellKept_cluster Home.distinct_cluster inTurn key
  refine ⟨inTurn, ?_, ?_, (wellFormed _).1, (wellFormed _).2⟩
  · decide +kernel
  · decide +kernel

end DynamicDns
