import DynamicDns.Proofs.Pass.Mutation

/-!
# Recording what was found

What a pass records is remembered in full, so after each of its parts it is known which resource it
holds in memory: one that reports what was recorded (`Resource.Reports`). Where a resource reports it
already nothing is sent, and the resource stays as it is (`keeps_recordCondition`).

`Follows` says what the rules under which a pass is answered have to say of a change of the status.
Then looking something up, or recording whether a client could be built, is known to lead to a
resource that reports it (`Resource.Records`), and to a patch only where it was not reported before.
-/

namespace DynamicDns

variable {σ τ : Type}

namespace Resource

def put (r : Resource σ τ) (status : τ) : Resource σ τ := { r with status := some status }

@[simp] theorem put_metadata (r : Resource σ τ) (status : τ) :
    (r.put status).metadata = r.metadata := rfl

@[simp] theorem put_spec (r : Resource σ τ) (status : τ) : (r.put status).spec = r.spec := rfl

variable [Status τ]

def conditions (r : Resource σ τ) : List Condition := Status.conditions r.statusOrInitial

def recorded (r : Resource σ τ) (now type : String) (changes : List Condition.Change) :
    Resource σ τ :=
  r.put (Pass.onConditions (Condition.assign now type (changes ++ [.observed r.generation]))
    r.statusOrInitial).1

def Reports (r : Resource σ τ) (type : String) (changes : List Condition.Change) : Prop :=
  Condition.Shows r.conditions type (changes ++ [.observed r.generation])

@[simp] theorem recorded_generation (r : Resource σ τ) (now type : String)
    (changes : List Condition.Change) :
    (r.recorded now type changes).generation = r.generation := rfl

variable {r : Resource σ τ} {type : String} {changes : List Condition.Change}

theorem Reports.hold {reason message : String}
    (h : r.Reports type (Pass.holds reason message)) : r.Reports type [.hold] :=
  Condition.Shows.hold h

/-- A condition does not hold and fail at once. -/
theorem Reports.not_fails (h : r.Reports type [.hold]) (reason message : String) :
    ¬r.Reports type (Pass.fails reason message) := by
  rintro ⟨c', found', meets'⟩
  obtain ⟨c, found, meets⟩ := h
  obtain rfl : c = c' := Option.some.inj (found.symm.trans found')
  have htrue := (Condition.meets_hold.1 meets).1
  rw [(Condition.meets_fails.1 meets').1] at htrue
  exact absurd htrue (by decide)

variable [LawfulStatus τ]

@[simp] theorem conditions_recorded (r : Resource σ τ) (now type : String)
    (changes : List Condition.Change) :
    (r.recorded now type changes).conditions =
      (Condition.assign now type (changes ++ [.observed r.generation]) r.conditions).1 :=
  LawfulStatus.conditions_withConditions _ _

theorem reports_recorded (settling : Condition.Settling (changes ++ [.observed r.generation]))
    (now : String) : (r.recorded now type changes).Reports type changes := by
  rw [Reports, conditions_recorded, recorded_generation]
  exact Condition.shows_assign settling now type r.conditions

theorem Reports.recorded (h : r.Reports type changes) {other : String} (hne : other ≠ type)
    (now : String) (changes' : List Condition.Change) :
    (r.recorded now other changes').Reports type changes := by
  rw [Reports, conditions_recorded, recorded_generation]
  exact Condition.Shows.assign_of_ne h hne now _

/-- Recording what is reported already changes nothing. -/
theorem Reports.onConditions_eq (h : r.Reports type changes) (now : String) :
    Pass.onConditions (Condition.assign now type (changes ++ [.observed r.generation]))
      r.statusOrInitial = (r.statusOrInitial, false) :=
  Pass.onConditions_of_unchanged (Condition.Shows.assign_eq h now)

theorem Reports.recorded_self (h : r.Reports type changes) (now : String) :
    r.recorded now type changes = r.put r.statusOrInitial := by
  rw [Resource.recorded, h.onConditions_eq]

/-- What recording a condition makes of a resource, and whether it had to be sent. -/
def Records (r : Resource σ τ) (type : String) (changes : List Condition.Change) (sent : Bool)
    (r' : Resource σ τ) : Prop :=
  (∃ now, r' = r.recorded now type changes) ∧ (sent = false ↔ r.Reports type changes)

namespace Records

variable {sent : Bool} {r' : Resource σ τ}

theorem reports (h : r.Records type changes sent r')
    (settling : Condition.Settling (changes ++ [.observed r.generation])) :
    r'.Reports type changes := by
  obtain ⟨⟨now, rfl⟩, -⟩ := h
  exact reports_recorded settling now

theorem other (h : r.Records type changes sent r') {other : String}
    {changes' : List Condition.Change} (reports : r.Reports other changes') (hne : type ≠ other) :
    r'.Reports other changes' := by
  obtain ⟨⟨now, rfl⟩, -⟩ := h
  exact reports.recorded hne now changes

end Records

/-! ### A client that was built -/

/-- What is recorded of a client that was built: a condition that holds already keeps what it says. -/
def creation (r : Resource σ τ) : List Condition.Change :=
  if (Condition.find? (r.status.elim [] Status.conditions) Condition.typeClient).any fun condition =>
      condition.status == Condition.statusTrue then [.hold]
  else Pass.holds Wording.clientCreated Wording.clientCreatedMessage

omit [LawfulStatus τ] in
theorem settling_creation (r : Resource σ τ) :
    Condition.Settling (r.creation ++ [.observed r.generation]) := by
  rw [creation]
  split
  · exact Condition.settling_hold _
  · exact Condition.settling_holds _ _ _

theorem Records.client {sent : Bool} {r' : Resource σ τ}
    (h : r.Records Condition.typeClient r.creation sent r') :
    r'.Reports Condition.typeClient [.hold] := by
  have reports := h.reports (settling_creation r)
  rw [creation] at reports
  split at reports
  · exact reports
  · exact reports.hold

theorem elim_conditions (r : Resource σ τ) : r.status.elim [] Status.conditions = r.conditions := by
  rw [conditions, Resource.statusOrInitial]
  cases r.status with
  | none => exact LawfulStatus.conditions_initial.symm
  | some status => rfl

theorem Reports.creation_eq (h : r.Reports Condition.typeClient [.hold]) : r.creation = [.hold] := by
  obtain ⟨c, found, meets⟩ := h
  obtain ⟨hstatus, -⟩ := Condition.meets_hold.1 meets
  rw [creation, elim_conditions, found, Option.any_some, hstatus, if_pos BEq.rfl]

theorem Reports.creation_eq_of_fails {reason message : String}
    (h : r.Reports Condition.typeClient (Pass.fails reason message)) :
    r.creation = Pass.holds Wording.clientCreated Wording.clientCreatedMessage := by
  obtain ⟨c, found, meets⟩ := h
  obtain ⟨hstatus, -⟩ := Condition.meets_fails.1 meets
  rw [creation, elim_conditions, found, Option.any_some, hstatus, if_neg (by decide)]

end Resource

namespace Pass

variable [Status τ] {δ κ α S : Type} {rules : Program.Rules (@Call.Reply δ κ) S}
  {r : Resource σ τ} {s : S}

/-! ### One condition -/

/-- A condition is recorded by a patch, unless it is reported already. -/
theorem keeps_recordCondition [LawfulStatus τ] {type : String} {changes : List Condition.Change}
    {gets : Resource σ τ → S → Prop} (calm : S → Prop) (allowed : rules.allows s .now)
    (answered : ∀ now s', rules.answers s .now now s' → calm s')
    (sent : ¬r.Reports type changes → ∀ now s', calm s' →
      let call : Call δ κ := .patchStatus (Status.kind τ) r.key
        (statusPatch r.status (r.recorded now type changes).statusOrInitial)
      rules.allows s' call ∧ ∀ reply s'', rules.answers s' call reply s'' →
        match reply with
        | .ok () => gets (r.recorded now type changes) s''
        | .error _ => rules.fails s'')
    (unsent : r.Reports type changes → ∀ s', calm s' → gets (r.put r.statusOrInitial) s') :
    (recordCondition type changes : Pass δ κ (Resource σ τ) Unit).Keeps rules
      (fun _ => gets) r s := by
  rw [recordCondition, stamped_bind]
  refine keeps_ask_bind allowed fun now s' answer => keeps_get_bind ?_
  have hcalm := answered now s' answer
  let mutate : Mutation τ :=
    onConditions (Condition.assign now type (changes ++ [.observed r.generation]))
  have hpatch : (patchStatus mutate : Pass δ κ (Resource σ τ) Bool).Keeps rules
      (fun _ => gets) r s' := by
    rw [Keeps, run_patchStatus]
    by_cases reports : r.Reports type changes
    · have hunchanged : mutate r.statusOrInitial = (r.statusOrInitial, false) :=
        reports.onConditions_eq now
      rw [hunchanged, if_neg Bool.false_ne_true]
      exact unsent reports s' hcalm
    · have hchanged : (mutate r.statusOrInitial).2 = true := by
        rw [← Bool.not_eq_false]
        exact fun h => reports (Condition.meets_of_assign_unchanged h)
      rw [if_pos hchanged]
      obtain ⟨allowed, answered⟩ := sent reports now s' hcalm
      refine ⟨allowed, fun reply s'' answer => ?_⟩
      have hreply := answered reply s'' answer
      cases reply with
      | ok value => exact hreply
      | error failure => exact hreply
  exact Keeps.bind hpatch fun _ _ _ got => keeps_pure got

/-! ### What follows a change of the status -/

/-- What is known before a status is changed leads to what is known afterwards, by whether it had to
be sent: reading the clock leaves it as it is, a patch is accepted or refused, and where
nothing changed none is needed. -/
structure Follows (rules : Program.Rules (@Call.Reply δ κ) S) (before : Resource σ τ → S → Prop)
    (after : Bool → Resource σ τ → S → Prop) : Prop where
  clock : ∀ r s, before r s → rules.allows s .now ∧
    ∀ now s', rules.answers s .now now s' → before r s'
  sends : ∀ r s, before r s → ∀ status,
    let call : Call δ κ := .patchStatus (Status.kind τ) r.key (statusPatch r.status status)
    rules.allows s call ∧ ∀ reply s', rules.answers s call reply s' →
      match reply with
      | .ok () => after true (r.put status) s'
      | .error _ => rules.fails s'
  rests : ∀ r s, before r s → after false (r.put r.statusOrInitial) s

namespace Follows

variable {before : Resource σ τ → S → Prop} {after : Bool → Resource σ τ → S → Prop}

theorem change (follows : Follows rules before after) {mutate : Mutation τ} (exact : mutate.Exact)
    (h : before r s) :
    (patchStatus mutate : Pass δ κ (Resource σ τ) Bool).Keeps rules
      (fun _ r' s' => r' = r.put (mutate r.statusOrInitial).1 ∧
        after (mutate r.statusOrInitial).2 r' s') r s := by
  rw [Keeps, run_patchStatus]
  by_cases hchanged : (mutate r.statusOrInitial).2 = true
  · rw [if_pos hchanged, hchanged]
    obtain ⟨allowed, answered⟩ := follows.sends r s h (mutate r.statusOrInitial).1
    refine ⟨allowed, fun reply s' answer => ?_⟩
    have hreply := answered reply s' answer
    cases reply with
    | ok value => exact ⟨rfl, hreply⟩
    | error failure => exact hreply
  · rw [if_neg hchanged, Bool.eq_false_iff.2 hchanged]
    have hsame : (mutate r.statusOrInitial).1 = r.statusOrInitial :=
      exact _ (Bool.eq_false_iff.2 hchanged)
    refine ⟨rfl, ?_⟩
    rw [hsame]
    exact follows.rests r s h

theorem recordCondition [LawfulStatus τ] (follows : Follows rules before after) (type : String)
    (changes : List Condition.Change) (h : before r s) :
    (Pass.recordCondition type changes : Pass δ κ (Resource σ τ) Unit).Keeps rules
      (fun _ r' s' => ∃ sent, r.Records type changes sent r' ∧ after sent r' s') r s := by
  obtain ⟨allowed, answered⟩ := follows.clock r s h
  refine keeps_recordCondition (before r) allowed answered (fun unreported now s' h' => ?_)
    fun reports s' h' => ?_
  · obtain ⟨allowed, answered⟩ :=
      follows.sends r s' h' (r.recorded now type changes).statusOrInitial
    refine ⟨allowed, fun reply s'' answer => ?_⟩
    have hreply := answered reply s'' answer
    cases reply with
    | ok value =>
      have hsent : true = false ↔ r.Reports type changes :=
        iff_of_false Bool.noConfusion unreported
      exact ⟨true, ⟨⟨now, rfl⟩, hsent⟩, hreply⟩
    | error failure => exact hreply
  · refine ⟨false, ⟨⟨"", (reports.recorded_self "").symm⟩, ?_⟩, follows.rests r s' h'⟩
    exact ⟨fun _ => reports, fun _ => rfl⟩

theorem fetch [LawfulStatus τ] {looked : Except LookupError α → Resource σ τ → S → Prop}
    {found : α → Bool → Resource σ τ → S → Prop}
    {missed : LookupError → Bool → Resource σ τ → S → Prop} {kind type reason name : String}
    {read : (key : ObjectKey) → Pass δ κ (Resource σ τ) (Except LookupError α)}
    (reads : (read ⟨r.metadata.space, name⟩).Keeps rules
      (fun reply r' s' => r' = r ∧ looked reply r s') r s)
    (finds : ∀ value, Follows rules (looked (.ok value)) (found value))
    (misses : ∀ e, Follows rules (looked (.error e)) (missed e))
    (fails : ∀ e sent r' s', r.Records type (fails reason e.text) sent r' → missed e sent r' s' →
      rules.fails s') :
    (Pass.fetch kind type reason name read).Keeps rules
      (fun value r' s' => ∃ sent,
        r.Records type (holds reason (Wording.found kind name)) sent r' ∧ found value sent r' s')
      r s := by
  refine keeps_get_bind (Keeps.bind reads fun reply r' s' h => ?_)
  obtain ⟨rfl, h⟩ := h
  cases reply with
  | ok value =>
    refine Keeps.bind ((finds value).recordCondition _ _ h) fun _ r'' s'' h' => ?_
    exact keeps_pure h'
  | error e =>
    refine Keeps.bind ((misses e).recordCondition _ _ h) fun _ r'' s'' h' => ?_
    obtain ⟨sent, records, h'⟩ := h'
    exact keeps_proceed_error (fails e sent r'' s'' records h')

variable {ε : Type} {cause : ε → Cause} {text : ε → String}

theorem recordCreation [LawfulStatus τ] (follows : Follows rules before after) (client : α)
    (h : before r s) :
    (Pass.recordCreation cause text (.ok client) : Pass δ κ (Resource σ τ) α).Keeps rules
      (fun client' r' s' => client' = client ∧ ∃ sent,
        r.Records Condition.typeClient r.creation sent r' ∧ after sent r' s') r s := by
  refine keeps_get_bind (Keeps.bind (follows.recordCondition _ r.creation h) fun _ r' s' h' => ?_)
  exact keeps_pure ⟨rfl, h'⟩

/-- A client that could not be built is recorded, and then the pass fails. -/
theorem recordCreation_error [LawfulStatus τ] {gets : α → Resource σ τ → S → Prop}
    (follows : Follows rules before after) (e : ε) (h : before r s)
    (fails : ∀ sent r' s', r.Records Condition.typeClient
      (fails Wording.clientCreated (Wording.creationFailed (text e))) sent r' → after sent r' s' →
        rules.fails s') :
    (Pass.recordCreation cause text (.error e) : Pass δ κ (Resource σ τ) α).Keeps rules gets r
      s := by
  refine Keeps.bind (follows.recordCondition _ _ h) fun _ r' s' h' => ?_
  obtain ⟨sent, records, h'⟩ := h'
  exact keeps_proceed_error (fails sent r' s' records h')

end Follows

end Pass

end DynamicDns
