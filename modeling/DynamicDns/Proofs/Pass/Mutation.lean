import DynamicDns.Pass.Notifier
import DynamicDns.Pass.Provider
import DynamicDns.Proofs.Condition.Ledger
import DynamicDns.Proofs.Pass.Conduct
import DynamicDns.Proofs.Resource.Codec

/-!
# What mutations say of themselves

A mutation says whether it changed a status, and a pass sends nothing where it did not
(`run_patchStatus`). That is right only if a mutation is exact: where it says that nothing changed,
nothing did. All mutations of passes are.
-/

namespace DynamicDns.Pass

variable {δ κ σ τ : Type}

theorem run_patchStatus [Status τ] (mutate : Mutation τ) (r : Resource σ τ) :
    (patchStatus mutate : Pass δ κ (Resource σ τ) Bool).run.run r =
      if (mutate r.statusOrInitial).2 then
        .call (.patchStatus (Status.kind τ) r.key
            (statusPatch r.status (mutate r.statusOrInitial).1)) fun reply =>
          .done (reply.map fun _ => true, { r with status := some (mutate r.statusOrInitial).1 })
      else .done (.ok false, { r with status := some (mutate r.statusOrInitial).1 }) := by
  rw [patchStatus, run_bind]
  change Program.bind (.done (Except.ok r, r)) _ = _
  dsimp only [Program.bind]
  generalize mutate r.statusOrInitial = mutated
  obtain ⟨status, changed⟩ := mutated
  cases changed with
  | false => rfl
  | true =>
    change Program.call _ _ = Program.call _ _
    congr 1
    funext reply
    cases reply <;> rfl

theorem stamped_bind [Status τ] {α : Type} {type : String} {changes : List Condition.Change}
    (f : Mutation τ → Pass δ κ (Resource σ τ) α) :
    stamped type changes >>= f = (do
      let now ← ask .now
      let resource ← get
      f (onConditions (Condition.assign now type (changes ++ [.observed resource.generation])))) := by
  simp [stamped]

/-- A mutation that says that nothing changed leaves the status as it is. -/
def Mutation.Exact (mutate : Mutation τ) : Prop :=
  ∀ status, (mutate status).2 = false → (mutate status).1 = status

theorem Mutation.Exact.andAlso {first second : Mutation τ} (hfirst : first.Exact)
    (hsecond : second.Exact) : (Pass.andAlso first second).Exact := by
  intro status hunchanged
  have hboth : (first status).2 = false ∧ (second (first status).1).2 = false :=
    Bool.or_eq_false_iff.1 hunchanged
  exact (hsecond _ hboth.2).trans (hfirst status hboth.1)

theorem exact_onConditions [Status τ] [LawfulStatus τ]
    {change : List Condition → List Condition × Bool}
    (h : ∀ conditions, (change conditions).2 = false → (change conditions).1 = conditions) :
    (onConditions change : Mutation τ).Exact := by
  intro status hunchanged
  have hconditions := h (Status.conditions status) hunchanged
  calc Status.withConditions status (change (Status.conditions status)).1
    _ = Status.withConditions status (Status.conditions status) := by rw [hconditions]
    _ = status := LawfulStatus.withConditions_conditions status

theorem exact_assign [Status τ] [LawfulStatus τ] (now type : String)
    (changes : List Condition.Change) :
    (onConditions (Condition.assign now type changes) : Mutation τ).Exact :=
  exact_onConditions fun _ => Condition.assign_of_unchanged

theorem exact_ensureTypes [Status τ] [LawfulStatus τ] (now : String) (types : List String) :
    (onConditions (Condition.ensureTypes now types) : Mutation τ).Exact :=
  exact_onConditions fun _ => Condition.ensureTypes_of_unchanged

theorem onConditions_of_unchanged [Status τ] [LawfulStatus τ]
    {change : List Condition → List Condition × Bool} {status : τ}
    (h : change (Status.conditions status) = (Status.conditions status, false)) :
    onConditions change status = (status, false) := by
  rw [onConditions, h]
  dsimp only
  rw [LawfulStatus.withConditions_conditions]

theorem exact_putPublicIp (ip : String) : (putPublicIp ip).Exact := by
  intro status h
  have hsame : status.publicIp = ip := by simpa [putPublicIp] using h
  simp [putPublicIp, ← hsame]

theorem exact_putProviderIp (ip : String) : (putProviderIp ip).Exact := by
  intro status h
  have hsame : status.providerIp = ip := by simpa [putProviderIp] using h
  simp [putProviderIp, ← hsame]

theorem exact_putProviderGeneration (generation : Option Int64) :
    (putProviderGeneration generation).Exact := by
  intro status h
  have hsame : status.observedGeneration = generation := by simpa [putProviderGeneration] using h
  simp [putProviderGeneration, ← hsame]

theorem exact_putReady (ready : Bool) : (putReady ready).Exact := by
  intro status h
  have hsame : status.isReady = ready := by simpa [putReady] using h
  simp [putReady, ← hsame]

theorem exact_putNotifierGeneration (generation : Option Int64) :
    (putNotifierGeneration generation).Exact := by
  intro status h
  have hsame : status.observedGeneration = generation := by simpa [putNotifierGeneration] using h
  simp [putNotifierGeneration, ← hsame]

end DynamicDns.Pass
