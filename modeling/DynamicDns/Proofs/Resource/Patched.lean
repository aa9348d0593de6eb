import DynamicDns.Marker
import DynamicDns.Pass.Status
import DynamicDns.Proofs.Resource.Facet
import DynamicDns.World.Cluster

/-!
# Patched resources

A merge patch acts on each part of a resource for itself. The operator sends two patches. A status
patch leaves the metadata alone, and moves the readiness of a notifier only where the two statuses that
it was made from differ in it. A marker patch sets one annotation and leaves all other metadata alone.
-/

namespace DynamicDns

open Json

/-! ### Part by part -/

namespace Resource

variable {σ τ : Type} [Codec σ] [Status τ]

theorem patched?_eq (resource : Resource σ τ) (changes : Members) :
    patched? resource (.obj changes) = decode? (.obj (applyChanges resource.written changes)) := by
  change decode? (applyPatch (.obj resource.written) (.obj changes)) = _
  rw [applyPatch]
  rfl

/-- What a merge patch makes of metadata, of a specification and of a status, if it says this of
them. -/
def metadataAfter? (metadata : Metadata) (change : Option Json) : Option Metadata :=
  (Members.changed (some (.obj metadata.written)) change).bind Codec.decode?

def specAfter? (spec : σ) (change : Option Json) : Option σ :=
  (Members.changed (some (Codec.encode spec)) change).bind Codec.decode?

def statusAfter? (status : Option τ) (change : Option Json) : Option (Option τ) :=
  (slotOf (Members.changed (status.map Codec.encode) change)).optional Codec.decode?

/-- A merge patch acts on each part for itself. -/
theorem patched?_eq_some {resource resource' : Resource σ τ} {changes : Members}
    (sorted : changes.Sorted) :
    patched? resource (.obj changes) = some resource' ↔
      metadataAfter? resource.metadata (changes.get? "metadata") = some resource'.metadata ∧
        specAfter? resource.spec (changes.get? "spec") = some resource'.spec ∧
          statusAfter? resource.status (changes.get? "status") = some resource'.status := by
  have hspec : resource.written.get? "spec" = some (Codec.encode resource.spec) := by
    simp [get?_written]
  rw [patched?_eq, decode?_obj_eq_some, slot_eq_slotOf, Members.get?_applyChanges sorted,
    Members.get?_applyChanges sorted, Members.get?_applyChanges sorted, get?_written_metadata, hspec,
    get?_written_status]
  rfl

theorem patched?_parts (resource : Resource σ τ) {changes : Members} (sorted : changes.Sorted) :
    patched? resource (.obj changes) =
      (metadataAfter? resource.metadata (changes.get? "metadata")).bind fun metadata =>
        (specAfter? resource.spec (changes.get? "spec")).bind fun spec =>
          (statusAfter? resource.status (changes.get? "status")).map fun status =>
            ⟨metadata, spec, status⟩ := by
  ext changed
  rw [patched?_eq_some sorted]
  constructor
  · rintro ⟨hmetadata, hspec, hstatus⟩
    simp [hmetadata, hspec, hstatus]
  · intro h
    obtain ⟨metadata, hmetadata, h⟩ := Option.bind_eq_some_iff.1 h
    obtain ⟨spec, hspec, h⟩ := Option.bind_eq_some_iff.1 h
    obtain ⟨status, hstatus, rfl⟩ := Option.map_eq_some_iff.1 h
    exact ⟨hmetadata, hspec, hstatus⟩

theorem metadataAfter?_none (metadata : Metadata) : metadataAfter? metadata none = some metadata :=
  Metadata.decode?_obj fun _ => rfl

theorem statusAfter?_obj (status : Option τ) (changes : Members) :
    statusAfter? status (some (.obj changes)) =
      (Codec.decode? (.obj (applyChanges ((status.map Codec.encode).bind members? |>.getD [])
        changes))).map some := by
  rw [statusAfter?, Members.changed_obj, slotOf, Slot.optional_given _ Json.noConfusion]

/-! ### Status patches -/

theorem sorted_status (change : Json) : Members.Sorted [("status", change)] :=
  List.pairwise_singleton _ _

theorem metadata_of_patched? {resource resource' : Resource σ τ} {change : Json}
    (h : patched? resource (Json.object [("status", change)]) = some resource') :
    resource'.metadata = resource.metadata := by
  have hmetadata := ((patched?_eq_some (sorted_status change)).1 h).1
  exact Option.some.inj (hmetadata.symm.trans (metadataAfter?_none resource.metadata))

theorem status_of_patched? {resource resource' : Resource σ τ} {changes : Members}
    (h : patched? resource (Json.object [("status", .obj changes)]) = some resource') :
    ∃ status, resource'.status = some status ∧
      Codec.decode? (.obj (applyChanges
        ((resource.status.map Codec.encode).bind members? |>.getD []) changes)) = some status := by
  have hstatus := ((patched?_eq_some (sorted_status _)).1 h).2.2
  rw [Members.get?_cons, if_pos rfl, statusAfter?_obj] at hstatus
  obtain ⟨status, hdecode, hsome⟩ := Option.map_eq_some_iff.1 hstatus
  exact ⟨status, hsome.symm, hdecode⟩

end Resource

/-! ### Readiness -/

namespace NotifierStatus

def written (status : NotifierStatus) : Members :=
  Members.ofList (
    [("isReady", .bool status.isReady)] ++
    member? "observedGeneration" (status.observedGeneration.map ofInt64) ++
    [("conditions", ofItems status.conditions)])

theorem sorted_written (status : NotifierStatus) : status.written.Sorted :=
  Members.sorted_ofList _

theorem get?_written_isReady (status : NotifierStatus) :
    status.written.get? "isReady" = some (.bool status.isReady) := by
  simp only [written, Members.get?_ofList, List.reverse_append, Members.reverse_member?,
    Members.get?_append, Members.get?_member?]
  rfl

theorem isReady_of_decode? {members : Members} {status : NotifierStatus}
    (h : decode? (.obj members) = some status) :
    status.isReady = ((members.get? "isReady").bind bool?).getD false := by
  change (do return {
    isReady := ← (slot members "isReady").defaulted false bool?
    observedGeneration := ← (slot members "observedGeneration").optional toInt64?
    conditions := ← (slot members "conditions").defaulted [] toItems? } : Option NotifierStatus) =
      some status at h
  obtain ⟨ready, hready, h⟩ := Option.bind_eq_some_iff.1 h
  obtain ⟨generation, -, h⟩ := Option.bind_eq_some_iff.1 h
  obtain ⟨conditions, -, h⟩ := Option.bind_eq_some_iff.1 h
  cases h
  rw [slot] at hready
  cases hfound : members.get? "isReady" with
  | none =>
    rw [hfound] at hready
    cases hready
    rfl
  | some value =>
    rw [hfound] at hready
    change bool? value = some ready at hready
    rw [Option.bind_some, hready]
    rfl

end NotifierStatus

namespace Notifier

theorem isReady_of_patched? {notifier notifier' : Notifier} {changes : Members}
    (sorted : changes.Sorted)
    (h : patched? notifier (Json.object [("status", .obj changes)]) = some notifier') :
    notifier'.statusOrInitial.isReady =
      ((Members.changed (notifier.status.map fun status => .bool status.isReady)
        (changes.get? "isReady")).bind bool?).getD false := by
  obtain ⟨status, hstatus, hdecode⟩ := Resource.status_of_patched? h
  have hready := NotifierStatus.isReady_of_decode? hdecode
  rw [Members.get?_applyChanges sorted] at hready
  rw [Resource.statusOrInitial, hstatus, Option.getD_some, hready]
  cases hold : notifier.status with
  | none => rfl
  | some old =>
    have hwritten := old.get?_written_isReady
    change (Members.changed (old.written.get? "isReady") _ |>.bind bool?).getD false = _
    rw [hwritten]
    rfl

/-- A status patch says what the readiness is to be only if it changes it, or if there was no status
to change. -/
theorem isReady_of_statusPatch {notifier notifier' : Notifier} {before : Option NotifierStatus}
    {after : NotifierStatus}
    (h : patched? notifier (Pass.statusPatch before after) = some notifier') :
    notifier'.statusOrInitial.isReady =
      if before.any (·.isReady = after.isReady) then notifier.statusOrInitial.isReady
      else after.isReady := by
  cases before with
  | none =>
    have hready := isReady_of_patched? after.sorted_written h
    rw [hready, after.get?_written_isReady]
    rfl
  | some before =>
    change patched? notifier (Json.object
      [("status", diff (.obj before.written) (.obj after.written))]) = _ at h
    rw [diff_obj] at h
    rw [isReady_of_patched? (Members.sorted_differences _ _) h,
      Members.get?_differences before.sorted_written after.sorted_written,
      before.get?_written_isReady, after.get?_written_isReady]
    rw [Members.difference_bool]
    by_cases hsame : before.isReady = after.isReady
    · rw [if_pos hsame, if_pos (by simpa using hsame), Resource.statusOrInitial]
      cases notifier.status <;> rfl
    · rw [if_neg hsame, if_neg (by simpa using hsame)]
      rfl

end Notifier

/-! ### Marker patches -/

/-- Metadata with the address of a marker reads back with that annotation alone changed. -/
theorem Metadata.decode?_marked (metadata : Metadata) (marker : Marker) (ip : String) :
    Metadata.decode? (.obj (applyChanges metadata.written
      [("annotations", .obj [(marker.key, .str ip)])])) =
        some (metadata.annotated marker.key ip) := by
  rw [Metadata.annotated]
  refine Metadata.decode?_obj fun key => ?_
  rw [Members.get?_applyChanges (List.pairwise_singleton _ _)]
  by_cases hkey : "annotations" = key
  · subst key
    rw [Metadata.get?_written_annotations, Metadata.get?_written_annotations, Option.map_some,
      ofTexts, ← textMembers, textMembers_insertText, Members.get?_cons, if_pos rfl,
      Members.changed_obj, Members.applyChanges_str, Metadata.annotationList]
    cases metadata.annotations <;> rfl
  · rw [Members.get?_cons, if_neg hkey, Metadata.get?_written, Metadata.get?_written]
    simp only [if_neg hkey]
    rfl

namespace Resource

variable {σ τ : Type} [Codec σ] [Status τ]

theorem metadataAfter?_marked (metadata : Metadata) (marker : Marker) (ip : String) :
    metadataAfter? metadata (some (.obj [("annotations", .obj [(marker.key, .str ip)])])) =
      some (metadata.annotated marker.key ip) := by
  rw [metadataAfter?, Members.changed_obj, Option.bind_some]
  exact Metadata.decode?_marked metadata marker ip

theorem metadata_of_markerPatch {resource resource' : Resource σ τ} {marker : Marker} {ip : String}
    (h : patched? resource (marker.patch ip) = some resource') :
    resource'.metadata = resource.metadata.annotated marker.key ip := by
  have hmetadata := ((patched?_eq_some (List.pairwise_singleton _ _)).1 h).1
  exact Option.some.inj (hmetadata.symm.trans (metadataAfter?_marked _ marker ip))

end Resource

end DynamicDns
