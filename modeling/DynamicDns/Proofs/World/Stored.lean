import DynamicDns.Proofs.Resource.Codec
import DynamicDns.Proofs.World.Cluster

/-!
# Statuses in the store

The store keeps both kinds of resource in the same way, so what it does with a status patch is said
once for both. As long as the store and a pass agree on a status, a patch that the pass makes from
what it remembers is accepted, and then the store holds what the pass remembers, next to the metadata
and the specification that it held before (`patch_statusPatch`).
-/

namespace DynamicDns

open Json

variable {σ τ : Type} [Codec σ] [Status τ]

/-! ### Agreement on a status -/

/-- What is remembered of a status is what is stored of it; a status that was initialized in memory
may not be stored yet. -/
def InStep (stored memory : Option τ) : Prop :=
  stored = memory ∨ stored = none ∧ memory = some Status.initial

theorem InStep.refl (status : Option τ) : InStep status status := .inl rfl

theorem InStep.getD_eq {stored memory : Option τ} (h : InStep stored memory) :
    stored.getD Status.initial = memory.getD Status.initial := by
  rcases h with rfl | ⟨rfl, rfl⟩ <;> rfl

/-- Remembering a status in full does not change what is remembered. -/
theorem InStep.initialized {stored memory : Option τ} (h : InStep stored memory) :
    InStep stored (some (memory.getD Status.initial)) := by
  rcases h with rfl | ⟨rfl, rfl⟩
  · cases stored with
    | none => exact .inr ⟨rfl, rfl⟩
    | some status => exact .inl rfl
  · exact .inr ⟨rfl, rfl⟩

/-! ### One resource -/

namespace Resource

variable [LawfulCodec σ]

theorem specAfter?_none (spec : σ) : specAfter? spec none = some spec :=
  LawfulCodec.decode?_encode spec

theorem statusAfter?_none [LawfulStatus τ] (status : Option τ) :
    statusAfter? status none = some status := by
  cases status with
  | none => rfl
  | some status =>
    obtain ⟨members, hmembers⟩ := LawfulStatus.encode_eq_obj status
    have hread := LawfulStatus.decode?_encode status
    rw [hmembers] at hread
    rw [statusAfter?, Option.map_some, hmembers, Members.changed_none, slotOf,
      Slot.optional_given _ Json.noConfusion, hread, Option.map_some]

/-- What a status patch makes of a resource depends on its status alone. -/
theorem patched?_statusChange (resource : Resource σ τ) (change : Json) :
    patched? resource (Json.object [("status", change)]) =
      (statusAfter? resource.status (some change)).map fun status => { resource with status } := by
  change patched? resource (.obj [("status", change)]) = _
  rw [patched?_parts resource (sorted_status change)]
  simp [metadataAfter?_none, specAfter?_none]

theorem patched?_status {stored : Resource σ τ} {changes : Members} {status : τ}
    (h : Codec.decode? (applyPatch (.obj ((stored.status.map Codec.encode).bind members? |>.getD []))
      (.obj changes)) = some status) :
    patched? stored (Json.object [("status", .obj changes)]) =
      some { stored with status := some status } := by
  rw [applyPatch, members?, Option.getD_some] at h
  rw [patched?_statusChange, statusAfter?_obj, h]
  rfl

/-- A patch from what is remembered to a status leaves that status, and nothing else is changed. -/
theorem patched?_statusPatch [LawfulStatus τ] {stored : Resource σ τ} {memory : Option τ}
    (h : InStep stored.status memory) (after : τ) :
    patched? stored (Pass.statusPatch memory after) = some { stored with status := some after } := by
  obtain ⟨members, hmembers⟩ := LawfulStatus.encode_eq_obj after
  rcases h with rfl | ⟨hstored, rfl⟩
  · cases hstored : stored.status with
    | none =>
      have hfresh := LawfulStatus.decode?_fresh after
      rw [hmembers] at hfresh
      have hpatch : Pass.statusPatch (none : Option τ) after =
          Json.object [("status", .obj members)] := by
        rw [Pass.statusPatch, hmembers]
        rfl
      rw [hpatch]
      exact patched?_status (by rw [hstored]; exact hfresh)
    | some before =>
      obtain ⟨old, hold⟩ := LawfulStatus.encode_eq_obj before
      have hmerge := LawfulStatus.decode?_merge old before after
        (hold ▸ LawfulStatus.decode?_encode before)
      rw [hold, hmembers, diff_obj] at hmerge
      have hpatch : Pass.statusPatch (some before) after =
          Json.object [("status", .obj (Members.differences old members))] := by
        rw [Pass.statusPatch, hmembers, ← diff_obj, ← hold]
        rfl
      rw [hpatch]
      refine patched?_status ?_
      rw [hstored, Option.map_some, hold]
      exact hmerge
  · obtain ⟨old, hold⟩ := LawfulStatus.encode_eq_obj (Status.initial : τ)
    have hmerge := LawfulStatus.decode?_merge [] Status.initial after LawfulStatus.decode?_empty
    rw [hold, hmembers, diff_obj] at hmerge
    have hpatch : Pass.statusPatch (some (Status.initial : τ)) after =
        Json.object [("status", .obj (Members.differences old members))] := by
      rw [Pass.statusPatch, hmembers, ← diff_obj, ← hold]
      rfl
    rw [hpatch]
    refine patched?_status ?_
    rw [hstored]
    exact hmerge

/-- A marker patch is made of any resource, and sets that annotation alone. -/
theorem patched?_marker [LawfulStatus τ] (stored : Resource σ τ) (marker : Marker) (ip : String) :
    patched? stored (marker.patch ip) =
      some { stored with metadata := stored.metadata.annotated marker.key ip } := by
  rw [Marker.patch, patched?_parts stored (List.pairwise_singleton _ _)]
  simp [metadataAfter?_marked, specAfter?_none, statusAfter?_none]

end Resource

/-! ### The store -/

/-- A kind of resource that the store keeps on a shelf of its own. -/
class Shelved (σ : outParam Type) (τ : Type) [Codec σ] [Status τ] where
  shelf : Cluster → Shelf (Resource σ τ)
  withShelf : Cluster → Shelf (Resource σ τ) → Cluster
  patch_eq : ∀ (cluster : Cluster) (key : ObjectKey) (change : Json),
    cluster.patch (Status.kind τ) key change =
      ((shelf cluster).patch key change).map (withShelf cluster)
  shelf_withShelf : ∀ (cluster : Cluster) (resources : Shelf (Resource σ τ)),
    shelf (withShelf cluster resources) = resources

instance : Shelved ProviderSpec ProviderStatus where
  shelf := Cluster.providers
  withShelf cluster providers := { cluster with providers }
  patch_eq _ _ _ := rfl
  shelf_withShelf _ _ := rfl

instance : Shelved NotifierSpec NotifierStatus where
  shelf := Cluster.notifiers
  withShelf cluster notifiers := { cluster with notifiers }
  patch_eq _ _ _ := rfl
  shelf_withShelf _ _ := rfl

namespace Cluster

variable [Shelved σ τ]

def stored? (cluster : Cluster) (key : ObjectKey) : Option (Resource σ τ) :=
  (Shelved.shelf cluster).get? key

def store (cluster : Cluster) (key : ObjectKey) (resource : Resource σ τ) : Cluster :=
  Shelved.withShelf cluster ((Shelved.shelf cluster).put key resource)

theorem stored?_store (cluster : Cluster) (key other : ObjectKey) (resource : Resource σ τ) :
    (cluster.store key resource).stored? other =
      if key = other then some resource else cluster.stored? other := by
  rw [stored?, store, Shelved.shelf_withShelf, Shelf.get?_put]
  rfl

theorem patch_of_stored {cluster : Cluster} {key : ObjectKey} {stored : Resource σ τ}
    (found : cluster.stored? key = some stored) (change : Json) :
    cluster.patch (Status.kind τ) key change =
      match patched? stored change with
      | some changed => .ok (cluster.store key changed)
      | none => .error .malformed := by
  rw [stored?] at found
  rw [Shelved.patch_eq, Shelf.patch, found]
  dsimp only
  cases patched? stored change <;> rfl

theorem patch_statusPatch [LawfulCodec σ] [LawfulStatus τ] {cluster : Cluster} {key : ObjectKey}
    {stored : Resource σ τ} {memory : Option τ} (found : cluster.stored? key = some stored)
    (h : InStep stored.status memory) (after : τ) :
    cluster.patch (Status.kind τ) key (Pass.statusPatch memory after) =
      .ok (cluster.store key { stored with status := some after }) := by
  rw [patch_of_stored found, Resource.patched?_statusPatch h after]

theorem patch_markerPatch {cluster : Cluster} {key : ObjectKey} {stored : Provider}
    (found : cluster.stored? key = some stored) (marker : Marker) (ip : String) :
    ∃ annotations, cluster.patch .provider key (marker.patch ip) = .ok (cluster.store key
      ({ stored with metadata := { stored.metadata with annotations := annotations } } :
        Provider)) := by
  have hpatch := patch_of_stored found (marker.patch ip)
  rw [Resource.patched?_marker stored marker ip] at hpatch
  exact ⟨_, hpatch⟩

end Cluster

end DynamicDns
