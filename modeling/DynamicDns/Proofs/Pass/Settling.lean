import DynamicDns.Proofs.Pass.Recording

/-!
# What a pass settles

A pass makes a resource as it is wanted to be, part by part: a condition that is reported, an address
or a generation that is noted. What it gets to is told together with how many patches it took, and
none were needed where the resource was as wanted before (`Resource.Settles`). So one walk through a
pass says both what it leaves behind, and that it leaves alone what an earlier pass left behind.
-/

namespace DynamicDns

variable {σ τ : Type}

namespace Resource

variable [Status τ] {r r' origin : Resource σ τ} {type : String} {changes : List Condition.Change}

theorem Reports.congr (h : r.Reports type changes) (generation : r'.generation = r.generation)
    (status : r'.statusOrInitial = r.statusOrInitial) : r'.Reports type changes := by
  rw [Reports, conditions, generation, status]
  exact h

def Declared (r : Resource σ τ) : Prop :=
  ∀ type ∈ Condition.declaredTypes, (Condition.find? r.conditions type).isSome

theorem Declared.congr (h : r.Declared) (status : r'.statusOrInitial = r.statusOrInitial) :
    r'.Declared := by
  rw [Declared, conditions, status]
  exact h

def Declares (r : Resource σ τ) (sent : Bool) (r' : Resource σ τ) : Prop :=
  (∃ conditions, r' = r.put (Status.withConditions r.statusOrInitial conditions)) ∧ r'.Declared ∧
    (r.Declared → sent = false ∧ r'.statusOrInitial = r.statusOrInitial)

variable [LawfulStatus τ]

theorem Declared.recorded (declared : r.Declared) (now type : String)
    (changes : List Condition.Change) : (r.recorded now type changes).Declared := by
  intro other hother
  rw [conditions_recorded]
  by_cases hne : type = other
  · subst hne
    obtain ⟨time, found⟩ := Condition.find?_assign now type
      (changes ++ [.observed r.generation]) r.conditions
    rw [found]
    rfl
  · rw [Condition.find?_assign_of_ne hne]
    exact declared other hother

theorem Records.declared {sent : Bool} (h : r.Records type changes sent r')
    (declared : r.Declared) : r'.Declared := by
  obtain ⟨⟨now, rfl⟩, -⟩ := h
  exact declared.recorded now type changes

/-- What a pass has made of a resource with a number of patches: it is as wanted, and if it was so
before it is as it was, and nothing was sent. -/
structure Settles (origin : Resource σ τ) (wanted : Resource σ τ → Prop) (sent : Nat)
    (r : Resource σ τ) : Prop where
  metadata : r.metadata = origin.metadata
  spec : r.spec = origin.spec
  reached : wanted r
  idle : wanted origin → sent = 0 ∧ r.statusOrInitial = origin.statusOrInitial

namespace Settles

variable {wanted next : Resource σ τ → Prop} {sent : Nat} {more : Bool}

omit [LawfulStatus τ] in
theorem start (h : wanted origin) : origin.Settles wanted 0 origin :=
  ⟨rfl, rfl, h, fun _ => ⟨rfl, rfl⟩⟩

omit [LawfulStatus τ] in
theorem generation_eq (settles : origin.Settles wanted sent r) :
    r.generation = origin.generation := by
  rw [generation, settles.metadata, generation]

omit [LawfulStatus τ] in
/-- What is wanted can be put in other words. -/
theorem imp (settles : origin.Settles wanted sent r) (forth : wanted r → next r)
    (back : next origin → wanted origin) : origin.Settles next sent r :=
  ⟨settles.metadata, settles.spec, forth settles.reached, fun h => settles.idle (back h)⟩

omit [LawfulStatus τ] in
theorem and (settles : origin.Settles wanted sent r) {status : τ} (kept : wanted (r.put status))
    (got : next (r.put status))
    (idle : next origin → r.statusOrInitial = origin.statusOrInitial →
      more = false ∧ status = r.statusOrInitial) :
    origin.Settles (fun r => wanted r ∧ next r) (sent + more.toNat) (r.put status) := by
  refine ⟨settles.metadata, settles.spec, ⟨kept, got⟩, fun ⟨before, already⟩ => ?_⟩
  obtain ⟨rfl, hstatus⟩ := settles.idle before
  obtain ⟨rfl, rfl⟩ := idle already hstatus
  exact ⟨rfl, hstatus⟩

theorem record (settles : origin.Settles wanted sent r)
    (records : r.Records type changes more r')
    (settling : Condition.Settling (changes ++ [.observed r.generation])) (kept : wanted r') :
    origin.Settles (fun r => wanted r ∧ r.Reports type changes) (sent + more.toNat) r' := by
  have got := records.reports settling
  obtain ⟨⟨now, rfl⟩, hsent⟩ := records
  refine settles.and kept got fun already hstatus => ?_
  have reports := already.congr settles.generation_eq hstatus
  exact ⟨hsent.2 reports, congrArg Resource.statusOrInitial (reports.recorded_self now)⟩

theorem create (settles : origin.Settles wanted sent r)
    (records : r.Records Condition.typeClient r.creation more r') (kept : wanted r') :
    origin.Settles (fun r => wanted r ∧ r.Reports Condition.typeClient [.hold])
      (sent + more.toNat) r' := by
  have got := records.client
  obtain ⟨⟨now, rfl⟩, hsent⟩ := records
  refine settles.and kept got fun already hstatus => ?_
  have reports := already.congr settles.generation_eq hstatus
  rw [reports.creation_eq] at hsent ⊢
  exact ⟨hsent.2 reports, congrArg Resource.statusOrInitial (reports.recorded_self now)⟩

omit [LawfulStatus τ] in
theorem change (settles : origin.Settles wanted sent r) {mutate : Pass.Mutation τ}
    (exact : mutate.Exact) (kept : wanted (r.put (mutate r.statusOrInitial).1))
    (got : next (r.put (mutate r.statusOrInitial).1))
    (idle : next origin → r.statusOrInitial = origin.statusOrInitial →
      (mutate r.statusOrInitial).2 = false) :
    origin.Settles (fun r => wanted r ∧ next r) (sent + (mutate r.statusOrInitial).2.toNat)
      (r.put (mutate r.statusOrInitial).1) := by
  refine settles.and kept got fun already hstatus => ?_
  have unchanged := idle already hstatus
  exact ⟨unchanged, exact _ unchanged⟩

omit [LawfulStatus τ] in
theorem declare (settles : origin.Settles wanted sent r) (declares : r.Declares more r')
    (kept : wanted r') : origin.Settles (fun r => wanted r ∧ r.Declared) (sent + more.toNat) r' := by
  obtain ⟨⟨conditions, rfl⟩, got, hidle⟩ := declares
  exact settles.and kept got fun already hstatus => hidle (already.congr hstatus)

end Settles

/-! ### What is looked up -/

section

omit [LawfulStatus τ]

variable [Dependent σ]

def secretKey (r : Resource σ τ) : ObjectKey := ⟨r.metadata.space, Dependent.secretName r.spec⟩

def configMapKey (r : Resource σ τ) : ObjectKey :=
  ⟨r.metadata.space, Dependent.configMapName r.spec⟩

theorem Settles.secretKey_eq {wanted : Resource σ τ → Prop} {sent : Nat}
    (settles : origin.Settles wanted sent r) : r.secretKey = origin.secretKey := by
  rw [secretKey, settles.metadata, settles.spec, secretKey]

theorem Settles.configMapKey_eq {wanted : Resource σ τ → Prop} {sent : Nat}
    (settles : origin.Settles wanted sent r) : r.configMapKey = origin.configMapKey := by
  rw [configMapKey, settles.metadata, settles.spec, configMapKey]

def Unlocked (r : Resource σ τ) : Prop :=
  r.Reports Condition.typeSecret
    (Pass.holds Wording.secretFound (Wording.found "Secret" (Dependent.secretName r.spec)))

def Equipped (r : Resource σ τ) : Prop :=
  r.Reports Condition.typeConfigMap
    (Pass.holds Wording.configMapFound (Wording.found "ConfigMap" (Dependent.configMapName r.spec)))

theorem Unlocked.congr (h : r.Unlocked) (generation : r'.generation = r.generation)
    (spec : r'.spec = r.spec) (status : r'.statusOrInitial = r.statusOrInitial) : r'.Unlocked := by
  rw [Unlocked, spec]
  exact Reports.congr h generation status

theorem Equipped.congr (h : r.Equipped) (generation : r'.generation = r.generation)
    (spec : r'.spec = r.spec) (status : r'.statusOrInitial = r.statusOrInitial) : r'.Equipped := by
  rw [Equipped, spec]
  exact Reports.congr h generation status

end

section

variable [Dependent σ] {sent : Bool}

theorem Records.unlocked (h : r.Records type changes sent r') (unlocked : r.Unlocked)
    (hne : type ≠ Condition.typeSecret) : r'.Unlocked := by
  have reports := h.other unlocked hne
  obtain ⟨⟨now, rfl⟩, -⟩ := h
  exact reports

theorem Records.equipped (h : r.Records type changes sent r') (equipped : r.Equipped)
    (hne : type ≠ Condition.typeConfigMap) : r'.Equipped := by
  have reports := h.other equipped hne
  obtain ⟨⟨now, rfl⟩, -⟩ := h
  exact reports

end

end Resource

namespace Notifier

variable {notifier r r' : Notifier} {type : String} {changes : List Condition.Change} {sent : Bool}

theorem isReady_of_records (h : r.Records type changes sent r') :
    r'.statusOrInitial.isReady = r.statusOrInitial.isReady := by
  obtain ⟨⟨now, rfl⟩, -⟩ := h
  rfl

theorem isReady_of_declares (h : r.Declares sent r') :
    r'.statusOrInitial.isReady = r.statusOrInitial.isReady := by
  obtain ⟨⟨conditions, rfl⟩, -⟩ := h
  rfl

def Placed (notifier r : Notifier) : Prop :=
  r.statusOrInitial.isReady = notifier.statusOrInitial.isReady ∧ r.Declared

theorem Placed.records (h : Placed notifier r) (records : r.Records type changes sent r') :
    Placed notifier r' :=
  ⟨(isReady_of_records records).trans h.1, records.declared h.2⟩

def Supplied (notifier r : Notifier) : Prop := (Placed notifier r ∧ r.Unlocked) ∧ r.Equipped

theorem Supplied.records (h : Supplied notifier r)
    (records : r.Records Condition.typeClient changes sent r') : Supplied notifier r' :=
  ⟨⟨h.1.1.records records, records.unlocked h.1.2 (by decide)⟩,
    records.equipped h.2 (by decide)⟩

end Notifier

namespace Pass

variable [Status τ] {δ κ α S : Type} {rules : Program.Rules (@Call.Reply δ κ) S}

theorem Follows.knowing {before : Resource σ τ → S → Prop} {after : Bool → Resource σ τ → S → Prop}
    (follows : Follows rules before after) (known : Prop) :
    Follows rules (fun r s => known ∧ before r s) fun sent r s => known ∧ after sent r s where
  clock r s h := by
    obtain ⟨allowed, answered⟩ := follows.clock r s h.2
    exact ⟨allowed, fun now s' answer => ⟨h.1, answered now s' answer⟩⟩
  sends r s h status := by
    obtain ⟨allowed, answered⟩ := follows.sends r s h.2 status
    refine ⟨allowed, fun reply s' answer => ?_⟩
    have hreply := answered reply s' answer
    cases reply with
    | ok value => exact ⟨h.1, hreply⟩
    | error failure => exact hreply
  rests r s h := ⟨h.1, follows.rests r s h.2⟩

theorem Follows.ensureDeclared {before : Notifier → S → Prop} {after : Bool → Notifier → S → Prop}
    (follows : Follows rules before after) {r : Notifier} {s : S} (h : before r s) :
    (Pass.ensureDeclared : Pass δ κ Notifier Unit).Keeps rules
      (fun _ r' s' => ∃ sent, r.Declares sent r' ∧ after sent r' s') r s := by
  obtain ⟨allowed, answered⟩ := follows.clock r s h
  refine keeps_ask_bind allowed fun now s' answer => ?_
  refine Keeps.bind (follows.change (exact_ensureTypes _ _) (answered now s' answer)) ?_
  intro _ r' s'' h'
  obtain ⟨rfl, h'⟩ := h'
  refine keeps_pure ⟨_, ⟨⟨_, rfl⟩, ?_, fun declared => ?_⟩, h'⟩
  · exact (Condition.find?_ensureTypes now Condition.declaredTypes r.conditions).2
  · have hsame : onConditions (Condition.ensureTypes now Condition.declaredTypes)
        r.statusOrInitial = (r.statusOrInitial, false) :=
      onConditions_of_unchanged (Condition.ensureTypes_of_known declared)
    rw [hsame]
    exact ⟨rfl, rfl⟩

/-! ### Looking something up -/

variable [LawfulStatus τ] {r origin : Resource σ τ} {s : S} {wanted : Resource σ τ → Prop}
  {sent : Nat}

/-- What is looked up is settled, where patches are counted whatever the answer is. -/
theorem keeps_fetch_settling {held : Except LookupError α → Nat → Resource σ τ → S → Prop}
    (counts : ∀ reply n, Follows rules (held reply n) fun more => held reply (n + more.toNat))
    {kind type reason name : String}
    {read : (key : ObjectKey) → Pass δ κ (Resource σ τ) (Except LookupError α)}
    (settles : origin.Settles wanted sent r)
    (reads : (read ⟨r.metadata.space, name⟩).Keeps rules
      (fun reply r' s' => r' = r ∧ held reply sent r s') r s)
    (kept : ∀ changes more r', r.Records type changes more r' → wanted r')
    (misses : ∀ e n r' s',
      origin.Settles (fun r => wanted r ∧ r.Reports type (fails reason e.text)) n r' →
        held (.error e) n r' s' → rules.fails s') :
    (fetch kind type reason name read).Keeps rules
      (fun value r' s' => ∃ n,
        origin.Settles
          (fun r => wanted r ∧ r.Reports type (holds reason (Wording.found kind name))) n r' ∧
        held (.ok value) n r' s') r s := by
  refine Keeps.mono (Follows.fetch reads (fun value => counts (.ok value) sent)
    (fun e => counts (.error e) sent) ?_) ?_
  · intro e more r' s' records h
    refine misses e _ r' s' ?_ h
    exact settles.record records (Condition.settling_fails _ _ _) (kept _ _ _ records)
  · rintro value r' s' ⟨more, records, h⟩
    refine ⟨_, ?_, h⟩
    exact settles.record records (Condition.settling_holds _ _ _) (kept _ _ _ records)

variable [Dependent σ]

theorem keeps_unlock {held : Except LookupError Secret → Nat → Resource σ τ → S → Prop}
    (counts : ∀ reply n, Follows rules (held reply n) fun more => held reply (n + more.toNat))
    (settles : origin.Settles wanted sent r)
    (asks : rules.allows s (.getSecret origin.secretKey) ∧ ∀ reply s',
      rules.answers s (.getSecret origin.secretKey) reply s' → held reply sent r s')
    (kept : ∀ changes more r', r.Records Condition.typeSecret changes more r' → wanted r')
    (misses : ∀ e n r' s', origin.Settles (fun r => wanted r ∧
        r.Reports Condition.typeSecret (fails Wording.secretFound e.text)) n r' →
      held (.error e) n r' s' → rules.fails s') :
    (fetchSecret : Pass δ κ (Resource σ τ) Secret).Keeps rules
      (fun secret r' s' => ∃ n, origin.Settles (fun r => wanted r ∧ r.Unlocked) n r' ∧
        held (.ok secret) n r' s') r s := by
  rw [← settles.secretKey_eq] at asks
  refine keeps_get_bind (Keeps.mono (keeps_fetch_settling counts settles
    ⟨asks.1, fun reply s' answer => ⟨rfl, asks.2 reply s' answer⟩⟩ kept misses) ?_)
  rintro secret r' s' ⟨n, settles', h⟩
  refine ⟨n, settles'.imp (fun told => ⟨told.1, ?_⟩) fun told => ⟨told.1, ?_⟩, h⟩
  · rw [Resource.Unlocked, settles'.spec, ← settles.spec]
    exact told.2
  · rw [settles.spec]
    exact told.2

theorem keeps_equip {held : Except LookupError ConfigMap → Nat → Resource σ τ → S → Prop}
    (counts : ∀ reply n, Follows rules (held reply n) fun more => held reply (n + more.toNat))
    (settles : origin.Settles wanted sent r)
    (asks : rules.allows s (.getConfigMap origin.configMapKey) ∧ ∀ reply s',
      rules.answers s (.getConfigMap origin.configMapKey) reply s' → held reply sent r s')
    (kept : ∀ changes more r', r.Records Condition.typeConfigMap changes more r' → wanted r')
    (misses : ∀ e n r' s', origin.Settles (fun r => wanted r ∧
        r.Reports Condition.typeConfigMap (fails Wording.configMapFound e.text)) n r' →
      held (.error e) n r' s' → rules.fails s') :
    (fetchConfigMap : Pass δ κ (Resource σ τ) ConfigMap).Keeps rules
      (fun configMap r' s' => ∃ n, origin.Settles (fun r => wanted r ∧ r.Equipped) n r' ∧
        held (.ok configMap) n r' s') r s := by
  rw [← settles.configMapKey_eq] at asks
  refine keeps_get_bind (Keeps.mono (keeps_fetch_settling counts settles
    ⟨asks.1, fun reply s' answer => ⟨rfl, asks.2 reply s' answer⟩⟩ kept misses) ?_)
  rintro configMap r' s' ⟨n, settles', h⟩
  refine ⟨n, settles'.imp (fun told => ⟨told.1, ?_⟩) fun told => ⟨told.1, ?_⟩, h⟩
  · rw [Resource.Equipped, settles'.spec, ← settles.spec]
    exact told.2
  · rw [settles.spec]
    exact told.2

end Pass

end DynamicDns
