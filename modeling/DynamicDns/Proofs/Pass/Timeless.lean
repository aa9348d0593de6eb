import DynamicDns.Proofs.Condition.Growth
import DynamicDns.Proofs.Pass.Settling

/-!
# Nothing but the times depends on the clock

A clock reading goes into the time of a condition and nowhere else, and no decision looks at the time
of a condition. So what is recorded, and whether anything is, depends on the ledger but for its
times, and of a ledger that passes write it is the times alone that depend on when they were made. A
pass over a ready notifier is followed with the clock standing still: what it has made of the notifier
once its channel is built (`connected`), after a number of messages (`told`), and at its end
(`briefed`).
-/

namespace DynamicDns

namespace Condition

variable {changes : List Change} {conditions conditions' : List Condition}

theorem type_eq_of_timeless {c c' : Condition} (h : c.timeless = c'.timeless) : c.type = c'.type :=
  congrArg (·.type) h

theorem eq_iff_timeless {c c' : Condition} :
    c = c' ↔ c.timeless = c'.timeless ∧ c.lastTransitionTime = c'.lastTransitionTime := by
  obtain ⟨_, _, _, _, _, _⟩ := c
  obtain ⟨_, _, _, _, _, _⟩ := c'
  simp [timeless, and_assoc]

/-- Assignments are made to all of a condition but its time, and change nothing else. -/
theorem apply_timeless (change : Change) (c : Condition) :
    change.apply c.timeless = (change.apply c).timeless := by
  cases change <;> rfl

theorem apply_ne_iff (change : Change) (c : Condition) :
    change.apply c ≠ c ↔ change.apply c.timeless ≠ c.timeless := by
  have htime : (change.apply c).lastTransitionTime = c.lastTransitionTime := by cases change <;> rfl
  rw [apply_timeless, ne_eq, eq_iff_timeless, htime, eq_self, and_true]

theorem applyAll_timeless (changes : List Change) (c : Condition) :
    applyAll changes c.timeless = ((applyAll changes c).1.timeless, (applyAll changes c).2) := by
  induction changes generalizing c with
  | nil => rfl
  | cons change rest ih =>
    simp only [applyAll, apply_ne_iff change c]
    rw [apply_timeless, ih]

theorem timeless_applyAll (changes : List Change) {c c' : Condition} (h : c.timeless = c'.timeless) :
    (applyAll changes c).1.timeless = (applyAll changes c').1.timeless ∧
      (applyAll changes c).2 = (applyAll changes c').2 := by
  have happly : applyAll changes c.timeless = applyAll changes c'.timeless := by rw [h]
  rw [applyAll_timeless, applyAll_timeless] at happly
  exact Prod.mk.inj happly

/-! ### Ledgers that differ in times only -/

theorem find?_map_timeless (conditions : List Condition) (type : String) :
    find? (conditions.map timeless) type = (find? conditions type).map timeless := by
  rw [find?, List.find?_map]
  rfl

/-- Whether a condition stands with some status does not depend on the times. -/
theorem any_find?_map_timeless (conditions : List Condition) (type status : String) :
    ((find? (conditions.map timeless) type).any fun c => c.status == status) =
      (find? conditions type).any fun c => c.status == status := by
  rw [find?_map_timeless, Option.any_map]
  rfl

theorem map_timeless_assign (now now' type : String) (changes : List Change)
    (same : conditions.map timeless = conditions'.map timeless) :
    (assign now type changes conditions).1.map timeless =
      (assign now' type changes conditions').1.map timeless := by
  induction conditions generalizing conditions' with
  | nil =>
    obtain rfl := List.map_eq_nil_iff.1 same.symm
    have hplaceholder : (placeholder now type).timeless = (placeholder now' type).timeless := rfl
    obtain ⟨hfinal, -⟩ := timeless_applyAll changes hplaceholder
    exact congrArg (fun c => [c]) hfinal
  | cons c rest ih =>
    obtain ⟨c', rest', rfl, hc, hrest⟩ := List.map_eq_cons_iff.1 same.symm
    rw [assign, assign, type_eq_of_timeless hc]
    by_cases hfound : c.type = type
    · obtain ⟨hfinal, hchanged⟩ := timeless_applyAll changes hc.symm
      rw [if_pos hfound, if_pos hfound]
      dsimp only
      rw [hchanged]
      split
      · exact congrArg₂ List.cons hfinal hrest.symm
      · rw [List.map_cons, List.map_cons, hc, hrest]
    · rw [if_neg hfound, if_neg hfound, List.map_cons, List.map_cons, hc, ih hrest.symm]

theorem map_timeless_ensureTypes (now now' : String) (types : List String)
    (same : conditions.map timeless = conditions'.map timeless) :
    (ensureTypes now types conditions).1.map timeless =
      (ensureTypes now' types conditions').1.map timeless := by
  induction types generalizing conditions conditions' with
  | nil => exact same
  | cons type rest ih =>
    have hfind : (find? conditions type).map timeless = (find? conditions' type).map timeless := by
      rw [← find?_map_timeless, same, find?_map_timeless]
    rw [ensureTypes, ensureTypes]
    cases h : find? conditions type <;> cases h' : find? conditions' type <;> simp [h, h'] at hfind
    · refine ih ?_
      rw [List.map_append, List.map_append, same]
      rfl
    · exact ih same

end Condition

/-! ### Notifiers -/

def NotifierStatus.timeless (status : NotifierStatus) : NotifierStatus :=
  { status with conditions := status.conditions.map Condition.timeless }

namespace Notifier

/-- A notifier, but for the times in its conditions. -/
def timeless (notifier : Notifier) : Notifier :=
  { notifier with status := notifier.status.map NotifierStatus.timeless }

/-- A notifier whose channel was built, if that was all done at one time. -/
def connected (now : String) (r : Notifier) : Notifier :=
  let declared := r.put (Pass.onConditions (Condition.ensureTypes now Condition.declaredTypes)
    r.statusOrInitial).1
  let unlocked := declared.recorded now Condition.typeSecret
    (Pass.holds Wording.secretFound (Wording.found "Secret" r.spec.secretName))
  let equipped := unlocked.recorded now Condition.typeConfigMap
    (Pass.holds Wording.configMapFound (Wording.found "ConfigMap" r.spec.configMap))
  equipped.recorded now Condition.typeClient equipped.creation

def notified (now : String) (r : Notifier) : Notifier :=
  r.recorded now Condition.typeClient
    (Pass.holds Wording.clientCommunication Wording.notificationSent)

def told (now : String) (count : Nat) (r : Notifier) : Notifier := (notified now)^[count] r

def briefed (now : String) (count : Nat) (r : Notifier) : Notifier :=
  let r := told now count (connected now r)
  r.put (Pass.putNotifierGeneration (some r.generation) r.statusOrInitial).1

variable {r r' : Notifier} {status status' : NotifierStatus}

theorem timeless_statusOrInitial (same : timeless r = timeless r') :
    r.statusOrInitial.timeless = r'.statusOrInitial.timeless := by
  have hstatus : r.status.map NotifierStatus.timeless = r'.status.map NotifierStatus.timeless :=
    congrArg (·.status) same
  rw [Resource.statusOrInitial, Resource.statusOrInitial]
  cases h : r.status <;> cases h' : r'.status <;> simp [h, h'] at hstatus
  · rfl
  · exact hstatus

theorem timeless_put (same : timeless r = timeless r') (h : status.timeless = status'.timeless) :
    timeless (r.put status) = timeless (r'.put status') := by
  have hmetadata : r.metadata = r'.metadata := congrArg (·.metadata) same
  have hspec : r.spec = r'.spec := congrArg (·.spec) same
  simp only [timeless, Resource.put, Option.map_some, hmetadata, hspec, h]

theorem timeless_onConditions {change change' : List Condition → List Condition × Bool}
    (alike : ∀ conditions conditions' : List Condition,
      conditions.map Condition.timeless = conditions'.map Condition.timeless →
        (change conditions).1.map Condition.timeless =
          (change' conditions').1.map Condition.timeless)
    (h : status.timeless = status'.timeless) :
    (Pass.onConditions change status).1.timeless = (Pass.onConditions change' status').1.timeless := by
  have hready : status.isReady = status'.isReady := congrArg (·.isReady) h
  have hgeneration : status.observedGeneration = status'.observedGeneration :=
    congrArg (·.observedGeneration) h
  have hconditions := alike status.conditions status'.conditions (congrArg (·.conditions) h)
  change NotifierStatus.mk _ _ _ = NotifierStatus.mk _ _ _
  rw [NotifierStatus.mk.injEq]
  exact ⟨hready, hgeneration, hconditions⟩

theorem generation_of_timeless (same : timeless r = timeless r') : r.generation = r'.generation :=
  congrArg Metadata.currentGeneration (congrArg (·.metadata) same)

theorem timeless_recorded (same : timeless r = timeless r') (now now' type : String)
    (changes : List Condition.Change) :
    timeless (r.recorded now type changes) = timeless (r'.recorded now' type changes) := by
  rw [Resource.recorded, Resource.recorded, generation_of_timeless same]
  exact timeless_put same (timeless_onConditions
    (fun _ _ => Condition.map_timeless_assign now now' type _) (timeless_statusOrInitial same))

theorem creation_eq (same : timeless r = timeless r') : r.creation = r'.creation := by
  have hconditions : r.conditions.map Condition.timeless = r'.conditions.map Condition.timeless :=
    congrArg (·.conditions) (timeless_statusOrInitial same)
  rw [Resource.creation, Resource.creation, Resource.elim_conditions, Resource.elim_conditions,
    ← Condition.any_find?_map_timeless, hconditions, Condition.any_find?_map_timeless]

/-! ### A pass with the clock standing still -/

variable {origin : Notifier} {sent : Bool} {type : String} {changes : List Condition.Change}

theorem timeless_declared (same : timeless r = timeless origin) (now now' : String) :
    timeless (r.put (Pass.onConditions (Condition.ensureTypes now Condition.declaredTypes)
        r.statusOrInitial).1) =
      timeless (origin.put (Pass.onConditions (Condition.ensureTypes now' Condition.declaredTypes)
        origin.statusOrInitial).1) :=
  timeless_put same (timeless_onConditions
    (fun _ _ => Condition.map_timeless_ensureTypes now now' _) (timeless_statusOrInitial same))

theorem timeless_records (records : r.Records type changes sent r')
    (same : timeless r = timeless origin) (now : String) :
    timeless r' = timeless (origin.recorded now type changes) := by
  obtain ⟨⟨now', rfl⟩, -⟩ := records
  exact timeless_recorded same now' now type changes

theorem timeless_noted (same : timeless r = timeless r') :
    timeless (r.put (Pass.putNotifierGeneration (some r.generation) r.statusOrInitial).1) =
      timeless (r'.put (Pass.putNotifierGeneration (some r'.generation) r'.statusOrInitial).1) := by
  rw [generation_of_timeless same]
  exact timeless_put same (congrArg
    (fun status : NotifierStatus => { status with observedGeneration := some r'.generation })
    (timeless_statusOrInitial same))

theorem told_succ (now : String) (count : Nat) (r : Notifier) :
    told now (count + 1) r = notified now (told now count r) :=
  Function.iterate_succ_apply' (notified now) count r

theorem isReady_of_timeless (same : timeless r = timeless r') :
    r.statusOrInitial.isReady = r'.statusOrInitial.isReady :=
  congrArg (·.isReady) (timeless_statusOrInitial same)

theorem isReady_connected (now : String) (r : Notifier) :
    (connected now r).statusOrInitial.isReady = r.statusOrInitial.isReady := rfl

theorem isReady_briefed (now : String) (count : Nat) (r : Notifier) :
    (briefed now count r).statusOrInitial.isReady = r.statusOrInitial.isReady := by
  rw [← isReady_connected now r]
  change (told now count (connected now r)).statusOrInitial.isReady = _
  induction count with
  | zero => rfl
  | succ count ih =>
    rw [told_succ]
    exact ih

end Notifier

end DynamicDns
