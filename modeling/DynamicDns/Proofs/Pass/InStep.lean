import DynamicDns.Proofs.Pass.Plan
import DynamicDns.Proofs.Run.Answer

/-!
# The status in memory and in the store

A session is a pass over a resource at work: what it holds in memory, the cluster, and the steps that
it has taken, the latest first. Whenever a careful plan changes the status, the status that it
remembers is the one that is stored, and so it is again afterwards if the change went through; if it
did not, nothing has changed in the store and the plan takes no further step
(`Plan.Careful.staysInStep`). Both passes are such plans (`passes_stay_in_step`).
-/

namespace DynamicDns.Pass

variable {δ κ σ τ α : Type} [Codec σ] [Status τ] [Shelved σ τ]

structure Desk (σ τ : Type) where
  memory : Resource σ τ
  cluster : Cluster

/-- A step that was taken: how things were right before and right after it. -/
structure Moment (δ κ σ τ : Type) where
  before : Desk σ τ
  step : Step δ κ τ
  reply : step.Reply σ
  after : Desk σ τ

structure Session (δ κ σ τ : Type) where
  desk : Desk σ τ
  past : List (Moment δ κ σ τ)

namespace Session

/-- A step is taken, and then others change the cluster but for the status of the resource. -/
def Takes (scope : Option String) (key : ObjectKey) (session : Session δ κ σ τ)
    (step : Step δ κ τ) (reply : step.Reply σ) (session' : Session δ κ σ τ) : Prop :=
  ∃ after : Desk σ τ,
    (step.act.run session.desk.memory).Yields (Cluster.Answers scope) session.desk.cluster
      (reply, after.memory) after.cluster ∧
    session'.past = ⟨session.desk, step, reply, after⟩ :: session.past ∧
    session'.desk.memory = after.memory ∧
    Cluster.Undisturbed τ key after.cluster session'.desk.cluster

def take (scope : Option String) (refusal : Option Failure)
    (outside : (call : Call δ κ) → call.Reply) (step : Step δ κ τ) (session : Session δ κ σ τ) :
    step.Reply σ × Session δ κ σ τ :=
  let ((reply, memory), cluster) := (step.act.run session.desk.memory).run
    (fun call cluster => cluster.answer scope refusal outside call) session.desk.cluster
  (reply, ⟨⟨memory, cluster⟩, ⟨session.desk, step, reply, ⟨memory, cluster⟩⟩ :: session.past⟩)

theorem takes_take (scope : Option String) (key : ObjectKey) (refusal : Option Failure)
    (outside : (call : Call δ κ) → call.Reply) (step : Step δ κ τ) (session : Session δ κ σ τ) :
    session.Takes scope key step (session.take scope refusal outside step).1
      (session.take scope refusal outside step).2 := by
  refine ⟨(session.take scope refusal outside step).2.desk, ?_, rfl, rfl, rfl⟩
  exact Program.yields_run (fun call cluster => ⟨refusal, outside, rfl⟩) _ _

end Session

namespace Moment

def Refused (moment : Moment δ κ σ τ) : Prop := moment.step.refused moment.reply = true

/-- At a change of the status, memory and store agreed before it. If it went through they agree
afterwards, on the status that was to be, and nothing else about the resource has changed; if not,
nothing at all has changed in the store. No status is written other than by such a change. -/
def InStep (key : ObjectKey) : Moment δ κ σ τ → Prop
  | ⟨before, .change mutate, reply, after⟩ =>
    ∃ stored : Resource σ τ, before.cluster.stored? key = some stored ∧
      stored.statusOrInitial = before.memory.statusOrInitial ∧
      match reply with
      | .ok sent =>
        sent = (mutate before.memory.statusOrInitial).2 ∧
        after.memory.statusOrInitial = (mutate before.memory.statusOrInitial).1 ∧
        ∃ stored' : Resource σ τ, after.cluster.stored? key = some stored' ∧
          stored'.statusOrInitial = after.memory.statusOrInitial ∧
          stored'.metadata = stored.metadata ∧ stored'.spec = stored.spec
      | .error _ => after.cluster = before.cluster
  | ⟨_, .ask call, _, _⟩ => ¬call.WritesStatus
  | ⟨_, .look, _, _⟩ => True

end Moment

/-- However a plan for a stored resource is answered, memory and store are in step whenever it changes
the status, and nothing follows a change that was refused. -/
def Plan.StaysInStep (plan : Plan δ κ σ τ α) (scope : Option String) (key : ObjectKey) : Prop :=
  ∀ (cluster : Cluster) (resource : Resource σ τ), cluster.stored? key = some resource →
    resource.key = key → ∀ result session,
      plan.run.Yields (Session.Takes scope key) ⟨⟨resource, cluster⟩, []⟩ result session →
        ∀ later moment earlier, session.past = later ++ moment :: earlier →
          moment.InStep key ∧ (moment.Refused → later = [] ∧ result.isOk = false)

/-! ### One step -/

/-- What is remembered of a stored resource: its status, and under which key it stands. -/
structure Desk.Steady (key : ObjectKey) (desk : Desk σ τ) : Prop where
  own : desk.memory.key = key
  inStep : ∃ stored, desk.cluster.stored? key = some stored ∧
    DynamicDns.InStep stored.status desk.memory.status

variable {scope : Option String} {key : ObjectKey} {desk after : Desk σ τ}

theorem Desk.Steady.undisturbed {cluster : Cluster} (steady : desk.Steady key)
    (h : Cluster.Undisturbed τ key desk.cluster cluster) :
    Desk.Steady key ⟨desk.memory, cluster⟩ := by
  obtain ⟨stored, found, inStep⟩ := steady.inStep
  obtain ⟨stored', found', hstatus⟩ := h.stored found
  exact ⟨steady.own, stored', found', hstatus ▸ inStep⟩

variable [LawfulCodec σ] [LawfulStatus τ]

theorem Desk.Steady.change (steady : desk.Steady key) {mutate : Mutation τ} (exact : mutate.Exact)
    {reply : Except Failure Bool}
    (h : ((patchStatus mutate : Pass δ κ (Resource σ τ) Bool).run.run desk.memory).Yields
      (Cluster.Answers scope) desk.cluster (reply, after.memory) after.cluster) :
    Moment.InStep key (⟨desk, .change mutate, reply, after⟩ : Moment δ κ σ τ) ∧
      (reply.isOk = true → after.Steady key) := by
  obtain ⟨own, stored, found, inStep⟩ := steady
  obtain ⟨memory, cluster⟩ := after
  have agree : stored.statusOrInitial = desk.memory.statusOrInitial := inStep.getD_eq
  rw [run_patchStatus] at h
  by_cases hchanged : (mutate desk.memory.statusOrInitial).2 = true
  · rw [if_pos hchanged, own] at h
    obtain ⟨answer, between, ⟨refusal, outside, hanswer⟩, hreply, hcluster⟩ := h
    obtain ⟨rfl, rfl⟩ := Prod.mk.inj hreply
    dsimp only at hcluster
    subst hcluster
    rw [Cluster.answer_statusPatch found inStep] at hanswer
    cases refusal with
    | some failure =>
      obtain ⟨rfl, rfl⟩ := Prod.mk.inj hanswer
      exact ⟨⟨stored, found, agree, rfl⟩, fun h => by cases h⟩
    | none =>
      obtain ⟨rfl, rfl⟩ := Prod.mk.inj hanswer
      have found' := (Cluster.stored?_store desk.cluster key key
        { stored with status := some (mutate desk.memory.statusOrInitial).1 }).trans (if_pos rfl)
      refine ⟨⟨stored, found, agree, hchanged.symm, rfl, _, found', rfl, rfl, rfl⟩, fun _ => ?_⟩
      exact ⟨own, _, found', InStep.refl _⟩
  · rw [if_neg hchanged] at h
    obtain ⟨hreply, rfl⟩ := h
    obtain ⟨rfl, rfl⟩ := Prod.mk.inj hreply
    have hunchanged := Bool.eq_false_iff.2 hchanged
    have hsame : (mutate desk.memory.statusOrInitial).1 = desk.memory.statusOrInitial :=
      exact _ hunchanged
    refine ⟨⟨stored, found, agree, hunchanged.symm, rfl, stored, found, ?_, rfl, rfl⟩, fun _ => ?_⟩
    · exact agree.trans hsame.symm
    · refine ⟨own, stored, found, ?_⟩
      change DynamicDns.InStep stored.status (some (mutate desk.memory.statusOrInitial).1)
      rw [hsame]
      exact inStep.initialized

/-- A careful step keeps memory and store in step, unless the store refuses it. -/
theorem Desk.Steady.act (steady : desk.Steady key) {step : Step δ κ τ} {reply : step.Reply σ}
    (careful : (Plan.rules δ κ σ τ).allows false step)
    (h : (step.act.run desk.memory).Yields (Cluster.Answers scope) desk.cluster
      (reply, after.memory) after.cluster) :
    Moment.InStep key (⟨desk, step, reply, after⟩ : Moment δ κ σ τ) ∧
      (step.refused reply = false → after.Steady key) := by
  cases step with
  | look =>
    obtain ⟨hreply, hcluster⟩ := h
    have hmemory : after.memory = desk.memory := (Prod.mk.inj hreply).2
    refine ⟨trivial, fun _ => ⟨?_, ?_⟩⟩
    · exact hmemory ▸ steady.own
    · rw [hmemory, hcluster]
      exact steady.inStep
  | ask call =>
    obtain ⟨answer, between, ⟨refusal, outside, hanswer⟩, hreply, hcluster⟩ := h
    have hmemory : after.memory = desk.memory := (Prod.mk.inj hreply).2
    have spared := careful.2.keeps scope refusal outside desk.cluster key
    rw [hanswer, ← hcluster] at spared
    refine ⟨careful.2.writes, fun _ => ⟨?_, ?_⟩⟩
    · exact hmemory ▸ steady.own
    · rw [hmemory, spared]
      exact steady.inStep
  | change mutate =>
    have hchange := steady.change careful.2 h
    refine ⟨hchange.1, fun accepted => hchange.2 ?_⟩
    cases reply with
    | ok sent => rfl
    | error failure => cases accepted

/-! ### A whole pass -/

/-- A session so far: memory and store have been in step, and unless a change was just refused they
are now. -/
structure Session.Orderly (key : ObjectKey) (refused : Bool) (session : Session δ κ σ τ) : Prop where
  inStep : ∀ moment ∈ session.past, moment.InStep key
  steady : refused = false → session.desk.Steady key
  last : ∀ later moment earlier, session.past = later ++ moment :: earlier → moment.Refused →
    later = [] ∧ refused = true

theorem Session.Orderly.takes {refused : Bool} {session session' : Session δ κ σ τ}
    {step : Step δ κ τ} {reply : step.Reply σ} (orderly : session.Orderly key refused)
    (careful : (Plan.rules δ κ σ τ).allows refused step)
    (takes : session.Takes scope key step reply session') :
    session'.Orderly key (step.refused reply) := by
  obtain ⟨rfl, -⟩ := id careful
  obtain ⟨after, yields, hpast, hmemory, undisturbed⟩ := takes
  obtain ⟨hmoment, hsteady⟩ := (orderly.steady rfl).act careful yields
  refine ⟨fun moment h => ?_, fun accepted => ?_, fun later moment earlier hsplit refused => ?_⟩
  · rw [hpast] at h
    rcases List.mem_cons.1 h with rfl | h
    · exact hmoment
    · exact orderly.inStep moment h
  · have steady := (hsteady accepted).undisturbed undisturbed
    rw [← hmemory] at steady
    exact steady
  · rw [hpast] at hsplit
    cases later with
    | nil =>
      cases hsplit
      exact ⟨rfl, refused⟩
    | cons head rest =>
      -- No step of the past was refused, or this one would not have been taken.
      obtain ⟨-, hsplit⟩ := List.cons.inj hsplit
      obtain ⟨-, absurd⟩ := orderly.last rest moment earlier hsplit refused
      cases absurd

theorem Plan.Careful.staysInStep {plan : Plan δ κ σ τ α} (careful : plan.Careful)
    (scope : Option String) (key : ObjectKey) : plan.StaysInStep scope key := by
  intro cluster resource found own result session yields
  have hstart : Session.Orderly key false (⟨⟨resource, cluster⟩, []⟩ : Session δ κ σ τ) := by
    refine ⟨fun moment h => (List.not_mem_nil h).elim, fun _ => ?_, fun later moment earlier h => ?_⟩
    · exact ⟨own, resource, found, InStep.refl _⟩
    · exact absurd h (by simp)
  obtain ⟨refused, ends, orderly⟩ := Program.Obeys.of_yields
    (fun refused (session : Session δ κ σ τ) => session.Orderly key refused)
    (fun refused session step reply session' orderly allowed takes =>
      ⟨_, rfl, orderly.takes allowed takes⟩) careful hstart yields
  intro later moment earlier hsplit
  refine ⟨orderly.inStep moment (hsplit ▸ by simp), fun hrefused => ?_⟩
  obtain ⟨hlater, rfl⟩ := orderly.last later moment earlier hsplit hrefused
  refine ⟨hlater, Bool.eq_false_iff.2 fun succeeded => ?_⟩
  cases ends succeeded

/-- The status in memory and the stored one stay in step. Acted out, the two plans are the two passes:
whenever one changes the status, what it remembers is what is stored, and so it is afterwards, whether
or not something had to be sent; and once the store has refused a change nothing more is done. -/
theorem passes_stay_in_step (scope : Option String) (key : ObjectKey) :
    ((Plan.overProvider key : Plan δ κ ProviderSpec ProviderStatus Next).pass = overProvider key ∧
      (Plan.overProvider key : Plan δ κ ProviderSpec ProviderStatus Next).StaysInStep scope key) ∧
    (Plan.overNotifier key : Plan δ κ NotifierSpec NotifierStatus Next).pass = overNotifier key ∧
      (Plan.overNotifier key : Plan δ κ NotifierSpec NotifierStatus Next).StaysInStep scope key := by
  have provider : (Plan.overProvider key : Plan δ κ _ _ Next).Makes (overProvider key) :=
    Plan.makes_overProvider key
  have notifier : (Plan.overNotifier key : Plan δ κ _ _ Next).Makes (overNotifier key) :=
    Plan.makes_overNotifier key
  exact ⟨⟨provider.acted, provider.careful.staysInStep scope key⟩,
    notifier.acted, notifier.careful.staysInStep scope key⟩

def Moment.sent? : Moment δ κ σ τ → Option Bool
  | ⟨_, .change _, .ok sent, _⟩ => some sent
  | _ => none

/-- A pass over the provider that writes each thing it learns: two addresses, three conditions and the
generation. -/
theorem passes_stay_in_step_at_home :
    let zone := Home.key "zone"
    let plan : Plan Unit Unit ProviderSpec ProviderStatus Next := Plan.overProvider zone
    let run := plan.run.run (Session.take none none (Home.outside "192.0.2.7" []))
      ⟨⟨Home.zone, Home.cluster⟩, []⟩
    Home.cluster.stored? zone = some Home.zone ∧ Home.zone.key = zone ∧ run.1.isOk = true ∧
      run.2.past.filterMap Moment.sent? = List.replicate 6 true ∧
      ∀ moment ∈ run.2.past, moment.InStep zone := by
  intro zone plan run
  have found : Home.cluster.stored? zone = some Home.zone := rfl
  have own : Home.zone.key = zone := rfl
  have yields : plan.run.Yields (Session.Takes none zone) ⟨⟨Home.zone, Home.cluster⟩, []⟩ run.1 run.2 :=
    Program.yields_run (fun step session =>
      Session.takes_take none zone none (Home.outside "192.0.2.7" []) step session) _ _
  have hsent : run.2.past.filterMap Moment.sent? = List.replicate 6 true := by
    decide +kernel
  refine ⟨found, own, by decide +kernel, hsent, fun moment hmoment => ?_⟩
  obtain ⟨earlier, later, hsplit⟩ := List.append_of_mem hmoment
  obtain ⟨⟨-, inStep⟩, -⟩ := passes_stay_in_step none zone
  exact (inStep Home.cluster Home.zone found own run.1 run.2 yields _ _ _ hsplit).1

end DynamicDns.Pass
