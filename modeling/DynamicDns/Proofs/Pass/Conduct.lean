import DynamicDns.Pass.Dependencies
import DynamicDns.Proofs.Program

/-!
# What a pass may call

`Pass.Keeps` says of a part of a pass that it obeys rules. A failure ends a pass at once, so what a
part of a pass gets to matters only if it succeeds.

What both kinds of pass share is written once: recording a condition, looking something up and
recording whether a client could be built keep whatever tolerates a change of conditions.
-/

namespace DynamicDns

def Call.Harmless {δ κ : Type} : Call δ κ → Prop
  | .now | .record _ => True
  | _ => False

namespace Pass

variable {δ κ ρ α β S : Type} {rules : Program.Rules (@Call.Reply δ κ) S}

/-- A part of a pass obeys the rules, and unless it fails it gets to what is asked for. -/
def Keeps (rules : Program.Rules (@Call.Reply δ κ) S) (gets : α → ρ → S → Prop)
    (pass : Pass δ κ ρ α) (r : ρ) (s : S) : Prop :=
  (pass.run.run r).Obeys rules
    (fun result after =>
      match result.1 with
      | .ok value => gets value result.2 after
      | .error _ => rules.fails after) s

theorem run_bind (pass : Pass δ κ ρ α) (f : α → Pass δ κ ρ β) (r : ρ) :
    (pass >>= f).run.run r = (pass.run.run r).bind fun result =>
      match result.1 with
      | .ok value => (f value).run.run result.2
      | .error e => .done (.error e, result.2) := by
  change Program.bind _ _ = _
  congr 1
  funext result
  obtain ⟨_ | _, _⟩ := result <;> rfl

theorem Keeps.bind {gets : β → ρ → S → Prop} {between : α → ρ → S → Prop} {pass : Pass δ κ ρ α}
    {f : α → Pass δ κ ρ β} {r : ρ} {s : S} (first : pass.Keeps rules between r s)
    (second : ∀ value r' s', between value r' s' → (f value).Keeps rules gets r' s') :
    (pass >>= f).Keeps rules gets r s := by
  unfold Keeps
  rw [run_bind, Program.obeys_bind]
  refine Program.Obeys.mono first fun result after got => ?_
  obtain ⟨failure | value, r'⟩ := result
  · exact got
  · exact second value r' after got

/-- Nothing follows a part of a pass that always fails. -/
theorem Keeps.bind_of_false {gets : β → ρ → S → Prop} {pass : Pass δ κ ρ α} {f : α → Pass δ κ ρ β}
    {r : ρ} {s : S} (h : pass.Keeps rules (fun _ _ _ => False) r s) :
    (pass >>= f).Keeps rules gets r s :=
  h.bind fun _ _ _ absurd => absurd.elim

theorem Keeps.mono {gets gets' : α → ρ → S → Prop} {pass : Pass δ κ ρ α} {r : ρ} {s : S}
    (h : pass.Keeps rules gets r s)
    (weaker : ∀ value r' s', gets value r' s' → gets' value r' s') :
    pass.Keeps rules gets' r s := by
  refine Program.Obeys.mono h fun result after got => ?_
  obtain ⟨failure | value, r'⟩ := result
  · exact got
  · exact weaker value r' after got

theorem keeps_pure {gets : α → ρ → S → Prop} {value : α} {r : ρ} {s : S}
    (h : gets value r s) : (pure value : Pass δ κ ρ α).Keeps rules gets r s :=
  h

theorem keeps_get_bind {gets : α → ρ → S → Prop} {f : ρ → Pass δ κ ρ α} {r : ρ} {s : S}
    (h : (f r).Keeps rules gets r s) : (get >>= f).Keeps rules gets r s :=
  h

theorem keeps_set_bind {gets : α → ρ → S → Prop} {f : PUnit → Pass δ κ ρ α} {r r' : ρ} {s : S}
    (h : (f ⟨⟩).Keeps rules gets r' s) : (set r' >>= f).Keeps rules gets r s :=
  h

theorem keeps_throw {gets : α → ρ → S → Prop} {r : ρ} {s : S} (failure : Failure)
    (h : rules.fails s) : (throw failure : Pass δ κ ρ α).Keeps rules gets r s :=
  h

theorem keeps_throw_bind {gets : β → ρ → S → Prop} {f : α → Pass δ κ ρ β} {r : ρ} {s : S}
    (failure : Failure) (h : rules.fails s) : (throw failure >>= f).Keeps rules gets r s :=
  h

theorem keeps_ask {call : Call δ κ} {gets : call.Reply → ρ → S → Prop} {r : ρ} {s : S}
    (allowed : rules.allows s call)
    (answered : ∀ reply after, rules.answers s call reply after → gets reply r after) :
    (ask call : Pass δ κ ρ call.Reply).Keeps rules gets r s :=
  ⟨allowed, answered⟩

theorem keeps_ask_bind {call : Call δ κ} {gets : α → ρ → S → Prop} {f : call.Reply → Pass δ κ ρ α}
    {r : ρ} {s : S} (allowed : rules.allows s call)
    (answered : ∀ reply after, rules.answers s call reply after → (f reply).Keeps rules gets r after) :
    (ask call >>= f).Keeps rules gets r s :=
  ⟨allowed, answered⟩

theorem keeps_proceed {ε : Type} {cause : ε → Cause} {doing : String} {result : Except ε α}
    {gets : α → ρ → S → Prop} {r : ρ} {s : S} (h : ∀ value, result = .ok value → gets value r s)
    (fails : ∀ e, result = .error e → rules.fails s) :
    (proceed cause doing result : Pass δ κ ρ α).Keeps rules gets r s := by
  cases result with
  | ok value => exact keeps_pure (h value rfl)
  | error e => exact keeps_throw _ (fails e rfl)

theorem keeps_proceed_error {ε : Type} {cause : ε → Cause} {doing : String} {e : ε}
    {gets : α → ρ → S → Prop} {r : ρ} {s : S} (h : rules.fails s) :
    (proceed cause doing (.error e) : Pass δ κ ρ α).Keeps rules gets r s :=
  keeps_throw _ h

theorem Keeps.obeys {ends : Except Failure α → S → Prop} {gets : α → ρ → S → Prop}
    {pass : Pass δ κ ρ α} {r : ρ} {s : S} (h : pass.Keeps rules gets r s)
    (succeeds : ∀ value r' s', gets value r' s' → ends (.ok value) s')
    (fails : ∀ failure s', rules.fails s' → ends (.error failure) s') :
    (do return (← pass.run.run r).1 : Calling δ κ (Except Failure α)).Obeys rules ends s := by
  refine (Program.obeys_bind rules ends (pass.run.run r) _ s).2 (Program.Obeys.mono h ?_)
  intro result s' got
  obtain ⟨failure | value, r'⟩ := result
  · exact fails failure s' got
  · exact succeeds value r' s' got

/-! ### Changing a status -/

variable {σ τ : Type} [Status τ]

theorem keeps_patchStatus {mutate : Mutation τ} {gets : Bool → Resource σ τ → S → Prop}
    {r : Resource σ τ} {s : S}
    (sent : (mutate r.statusOrInitial).2 = true →
      rules.allows s (.patchStatus (Status.kind τ) r.key
        (statusPatch r.status (mutate r.statusOrInitial).1)) ∧
      ∀ after, rules.answers s (.patchStatus (Status.kind τ) r.key
          (statusPatch r.status (mutate r.statusOrInitial).1)) (.ok ()) after →
        gets true { r with status := some (mutate r.statusOrInitial).1 } after)
    (refused : ∀ patch failure after, rules.answers s
      (.patchStatus (Status.kind τ) r.key patch) (.error failure) after → rules.fails after)
    (unsent : (mutate r.statusOrInitial).2 = false →
      gets false { r with status := some (mutate r.statusOrInitial).1 } s) :
    (patchStatus mutate : Pass δ κ (Resource σ τ) Bool).Keeps rules gets r s := by
  refine keeps_get_bind ?_
  generalize hmutate : mutate r.statusOrInitial = mutated at sent unsent ⊢
  obtain ⟨status, changed⟩ := mutated
  refine keeps_set_bind ?_
  cases changed with
  | false => exact keeps_pure (unsent rfl)
  | true =>
    obtain ⟨allowed, answered⟩ := sent rfl
    refine keeps_ask_bind allowed fun reply after answer => ?_
    cases reply with
    | ok value => exact keeps_pure (answered after answer)
    | error failure => exact keeps_throw failure (refused _ _ _ answer)

theorem keeps_stamped_bind {type : String} {changes : List Condition.Change}
    {gets : α → Resource σ τ → S → Prop} {f : Mutation τ → Pass δ κ (Resource σ τ) α}
    {r : Resource σ τ} {s : S} (allowed : rules.allows s .now)
    (answered : ∀ now after, rules.answers s .now now after →
      ∀ change, (f (onConditions change)).Keeps rules gets r after) :
    (stamped type changes >>= f).Keeps rules gets r s :=
  keeps_ask_bind allowed fun now after answer => keeps_get_bind (answered now after answer _)

/-- What a change of conditions leaves as it is, and what reading the clock leaves as it is. -/
structure Tolerant (rules : Program.Rules (@Call.Reply δ κ) S)
    (holds : Resource σ τ → S → Prop) : Prop where
  clock : ∀ r s, holds r s → rules.allows s .now ∧
    ∀ now after, rules.answers s .now now after → holds r after
  sends : ∀ r s, holds r s → ∀ conditions,
    let status := Status.withConditions r.statusOrInitial conditions
    let call : Call δ κ := .patchStatus (Status.kind τ) r.key (statusPatch r.status status)
    rules.allows s call ∧
      ∀ after, rules.answers s call (.ok ()) after → holds { r with status := some status } after
  refused : ∀ r s, holds r s → ∀ patch failure after, rules.answers s
    (.patchStatus (Status.kind τ) r.key patch) (.error failure) after → rules.fails after
  keeps : ∀ r s, holds r s → ∀ conditions,
    holds { r with status := some (Status.withConditions r.statusOrInitial conditions) } s

variable {holds : Resource σ τ → S → Prop} {r : Resource σ τ} {s : S}

namespace Tolerant

theorem patchConditions (tolerant : Tolerant rules holds)
    (change : List Condition → List Condition × Bool) (h : holds r s) :
    (patchStatus (onConditions change) : Pass δ κ (Resource σ τ) Bool).Keeps rules
      (fun _ => holds) r s :=
  keeps_patchStatus (fun _ => tolerant.sends r s h _) (tolerant.refused r s h)
    (fun _ => tolerant.keeps r s h _)

theorem recordCondition (tolerant : Tolerant rules holds) (type : String)
    (changes : List Condition.Change) (h : holds r s) :
    (Pass.recordCondition type changes : Pass δ κ (Resource σ τ) Unit).Keeps rules
      (fun _ => holds) r s := by
  obtain ⟨allowed, answered⟩ := tolerant.clock r s h
  refine keeps_stamped_bind allowed fun now after answer change => ?_
  refine Keeps.bind (tolerant.patchConditions change (answered now after answer)) ?_
  exact fun _ _ _ h' => keeps_pure h'

theorem recordCreation {ε α : Type} (tolerant : Tolerant rules holds)
    (fails : ∀ r s, holds r s → rules.fails s) {cause : ε → Cause}
    {text : ε → String} {created : Except ε α} (h : holds r s) :
    (Pass.recordCreation cause text created : Pass δ κ (Resource σ τ) α).Keeps rules
      (fun client r' s' => created = .ok client ∧ holds r' s') r s := by
  cases created with
  | ok client =>
    refine keeps_get_bind (Keeps.bind (tolerant.recordCondition _ _ h) fun _ r' s' h' => ?_)
    exact keeps_pure ⟨rfl, h'⟩
  | error e =>
    refine Keeps.bind (tolerant.recordCondition _ _ h) fun _ r' s' h' => ?_
    exact keeps_proceed_error (fails _ _ h')

end Tolerant

/-! ### Looking something up -/

theorem keeps_fetch {α : Type} (holds : Except LookupError α → Resource σ τ → S → Prop)
    (tolerant : ∀ reply, Tolerant rules (holds reply))
    (fails : ∀ e r s, holds (.error e) r s → rules.fails s) (kind type reason name : String)
    {read : (key : ObjectKey) → Pass δ κ (Resource σ τ) (Except LookupError α)}
    (reads : (read ⟨r.metadata.space, name⟩).Keeps rules holds r s) :
    (Pass.fetch kind type reason name read).Keeps rules (fun value => holds (.ok value)) r s := by
  refine keeps_get_bind (Keeps.bind reads fun reply r' s' h' => ?_)
  cases reply with
  | ok value =>
    refine Keeps.bind ((tolerant _).recordCondition _ _ h') fun _ r'' s'' h'' => ?_
    exact keeps_pure h''
  | error e =>
    refine Keeps.bind ((tolerant _).recordCondition _ _ h') fun _ r'' s'' h'' => ?_
    exact keeps_proceed_error (fails _ _ _ h'')

variable [Dependent σ]

theorem keeps_fetchSecret (holds : Except LookupError Secret → Resource σ τ → S → Prop)
    (tolerant : ∀ reply, Tolerant rules (holds reply))
    (fails : ∀ e r s, holds (.error e) r s → rules.fails s)
    (asks : let call : Call δ κ := .getSecret ⟨r.metadata.space, Dependent.secretName r.spec⟩
      rules.allows s call ∧ ∀ reply after, rules.answers s call reply after → holds reply r after) :
    (fetchSecret : Pass δ κ (Resource σ τ) Secret).Keeps rules (fun value => holds (.ok value)) r s :=
  keeps_get_bind (keeps_fetch holds tolerant fails _ _ _ _ (keeps_ask asks.1 asks.2))

theorem keeps_fetchConfigMap (holds : Except LookupError ConfigMap → Resource σ τ → S → Prop)
    (tolerant : ∀ reply, Tolerant rules (holds reply))
    (fails : ∀ e r s, holds (.error e) r s → rules.fails s)
    (asks : let call : Call δ κ := .getConfigMap ⟨r.metadata.space, Dependent.configMapName r.spec⟩
      rules.allows s call ∧ ∀ reply after, rules.answers s call reply after → holds reply r after) :
    (fetchConfigMap : Pass δ κ (Resource σ τ) ConfigMap).Keeps rules
      (fun value => holds (.ok value)) r s :=
  keeps_get_bind (keeps_fetch holds tolerant fails _ _ _ _ (keeps_ask asks.1 asks.2))

end Pass

end DynamicDns
