import DynamicDns.Proofs.World.Stored

/-!
# The generation that was observed

Both kinds of status say for which generation of its specification a resource was last reconciled.
Whatever is stored, a status patch writes this generation if the two statuses that it was made of
differ in it, and else leaves it alone (`observed_patch`).
-/

namespace DynamicDns

open Json

/-- A status that says for which generation it was completed, if for any. -/
class Observing (τ : Type) [Status τ] where
  observed : τ → Option Int64
  observed_initial : observed Status.initial = none
  observed_withConditions : ∀ status conditions,
    observed (Status.withConditions status conditions) = observed status
  written : ∀ status : τ, ∃ members : Members, Codec.encode status = .obj members ∧
    members.Sorted ∧
      members.get? "observedGeneration" = Facet.optionalNumber.write (observed status)
  read : ∀ (members : Members) (status : τ), Codec.decode? (.obj members) = some status →
    Facet.optionalNumber.read (slot members "observedGeneration") = some (observed status)

instance : Observing ProviderStatus where
  observed := ProviderStatus.observedGeneration
  observed_initial := rfl
  observed_withConditions _ _ := rfl
  written status := ⟨status.written, rfl, status.sorted_written, status.get?_written_fields.2.2.1⟩
  read _ _ h := (ProviderStatus.decode?_obj_iff.1 h).2.2.1

instance : Observing NotifierStatus where
  observed := NotifierStatus.observedGeneration
  observed_initial := rfl
  observed_withConditions _ _ := rfl
  written status := ⟨status.written, rfl, status.sorted_written, status.get?_written_fields.2.1⟩
  read _ _ h := (NotifierStatus.decode?_obj_iff.1 h).2.1

variable {σ τ : Type} [Codec σ] [Status τ] [Observing τ]

namespace Resource

/-- The generation that is observed of a resource; there is none without a status. -/
def observed (r : Resource σ τ) : Option Int64 := Observing.observed r.statusOrInitial

omit [Codec σ] in
/-- What stands in the status of a resource reads as the generation that is observed of it. -/
theorem read_observed (r : Resource σ τ) :
    Facet.optionalNumber.read (slotOf (((r.status.map Codec.encode).bind members?
      |>.getD []).get? "observedGeneration")) = some r.observed := by
  rw [observed, statusOrInitial]
  cases r.status with
  | none =>
    rw [Option.getD_none, Observing.observed_initial]
    rfl
  | some status =>
    obtain ⟨members, hencode, -, hget⟩ := Observing.written status
    rw [Option.map_some, hencode]
    change Facet.optionalNumber.read (slotOf (members.get? "observedGeneration")) = _
    rw [hget]
    exact Facet.lawful_optionalNumber.read_written _

/-- What a patch between two statuses says of the generation. -/
theorem exists_statusPatch (before : Option τ) (after : τ) :
    ∃ changes : Members, Pass.statusPatch before after = Json.object [("status", .obj changes)] ∧
      changes.Sorted ∧ changes.get? "observedGeneration" =
        Members.difference
          (Facet.optionalNumber.write (Observing.observed (before.getD Status.initial)))
          (Facet.optionalNumber.write (Observing.observed after)) := by
  obtain ⟨new, hnew, sorted, hget⟩ := Observing.written after
  cases before with
  | none =>
    refine ⟨new, ?_, sorted, ?_⟩
    · rw [Pass.statusPatch, hnew]
      rfl
    · rw [hget, Option.getD_none, Observing.observed_initial]
      rfl
  | some status =>
    obtain ⟨old, hold, sorted', hget'⟩ := Observing.written status
    refine ⟨old.differences new, ?_, Members.sorted_differences _ _, ?_⟩
    · rw [Pass.statusPatch, Option.map_some, Option.getD_some, hold, hnew, diff_obj]
    · rw [Members.get?_differences sorted' sorted, hget, hget', Option.getD_some]

theorem observed_of_statusPatch {r r' : Resource σ τ} {before : Option τ} {after : τ}
    (h : patched? r (Pass.statusPatch before after) = some r') :
    r'.observed =
      if Observing.observed (before.getD Status.initial) = Observing.observed after then r.observed
      else Observing.observed after := by
  obtain ⟨changes, hpatch, sorted, hget⟩ := exists_statusPatch before after
  rw [hpatch] at h
  obtain ⟨status, hstatus, hdecode⟩ := status_of_patched? h
  have hread := Observing.read _ _ hdecode
  rw [slot_eq_slotOf, Members.get?_applyChanges sorted, hget,
    Facet.lawful_optionalNumber.read_difference _ _ r.read_observed] at hread
  rw [observed, statusOrInitial, hstatus, Option.getD_some]
  exact (Option.some.inj hread).symm

end Resource

namespace Cluster

variable [Shelved σ τ]

variable (τ) in
def observed (cluster : Cluster) (key : ObjectKey) : Option Int64 :=
  (cluster.stored? key : Option (Resource σ τ)).bind (·.observed)

theorem observed_patch {cluster cluster' : Cluster} {key : ObjectKey} {before : Option τ} {after : τ}
    (h : cluster.patch (Status.kind τ) key (Pass.statusPatch before after) = .ok cluster') :
    cluster'.observed τ key =
      if Observing.observed (before.getD Status.initial) = Observing.observed after then
        cluster.observed τ key
      else Observing.observed after := by
  cases hstored : (cluster.stored? key : Option (Resource σ τ)) with
  | none =>
    rw [stored?] at hstored
    rw [Shelved.patch_eq, Shelf.patch, hstored] at h
    cases h
  | some stored =>
    rw [patch_of_stored hstored] at h
    cases hpatched : patched? stored (Pass.statusPatch before after) with
    | none =>
      rw [hpatched] at h
      cases h
    | some changed =>
      rw [hpatched] at h
      cases h
      rw [observed, observed, stored?_store, if_pos rfl, hstored]
      exact Resource.observed_of_statusPatch hpatched

end Cluster

end DynamicDns
