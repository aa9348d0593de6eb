import DynamicDns.Proofs.World.Stored

/-!
# Contributions to a provider

Besides the pass that writes its status, others write to a provider: notifier passes set their
markers, and users edit the specification, upon which the API server counts up the generation. A
merge patch acts on each part of a resource for itself, so what a status patch makes of a provider
depends on its status alone, and what the others make of it does not.
-/

namespace DynamicDns

open Json

/-- Metadata with another generation reads back with that alone changed. -/
theorem Metadata.decode?_generation (metadata : Metadata) (generation : Int64) :
    Metadata.decode? (.obj (applyChanges metadata.written
      [("generation", ofInt64 generation)])) =
        some { metadata with generation := some generation } := by
  refine Metadata.decode?_obj fun key => ?_
  rw [Members.get?_applyChanges (List.pairwise_singleton _ _), Members.get?_cons]
  by_cases hkey : "generation" = key
  · subst key
    simp [Metadata.get?_written, (Facet.plain_ofInt64 generation).changed]
  · rw [if_neg hkey, Metadata.get?_written, Metadata.get?_written]
    simp only [if_neg hkey]
    rfl

/-! ### What others write -/

/-- A patch of a provider by another writer than its own pass. -/
inductive Contribution where
  | mark (notifier : ObjectKey) (ip : String)
  | edit (change : Json) (generation : Int64)

namespace Contribution

def patch : Contribution → Json
  | .mark notifier ip => notifier.marker.patch ip
  | .edit change generation =>
    .obj [("metadata", .obj [("generation", ofInt64 generation)]), ("spec", change)]

/-- What becomes of a provider. An edit that leaves no specification is refused. -/
def on (provider : Provider) : Contribution → Provider
  | .mark notifier ip =>
    let annotations := insertText notifier.marker.key ip provider.metadata.annotationList
    { provider with metadata := { provider.metadata with annotations := some annotations } }
  | .edit change generation =>
    match patched? provider.spec change with
    | some spec =>
      { provider with
        metadata := { provider.metadata with generation := some generation }
        spec }
    | none => provider

theorem specAfter?_some (spec : ProviderSpec) (change : Json) :
    Resource.specAfter? spec (some change) = patched? spec change := by
  rw [Resource.specAfter?, patched?]
  cases change
  case null =>
    rw [Json.applyPatch]
    · rfl
    · exact fun changes h => by cases h
  all_goals
    rw [Members.changed]
    · rfl
    · intro h
      cases h

theorem patched?_edit (provider : Provider) (change : Json) (generation : Int64) :
    patched? provider (edit change generation).patch =
      (patched? provider.spec change).map fun spec =>
        { provider with
          metadata := { provider.metadata with generation := some generation }
          spec } := by
  have hsorted : Members.Sorted [("metadata", .obj [("generation", ofInt64 generation)]),
      ("spec", change)] := by
    rw [Members.Sorted, List.pairwise_pair]
    show "metadata" < "spec"
    decide
  have hmetadata : Resource.metadataAfter? provider.metadata
      (some (.obj [("generation", ofInt64 generation)])) =
        some { provider.metadata with generation := some generation } := by
    rw [Resource.metadataAfter?, Members.changed_obj, Option.bind_some]
    exact Metadata.decode?_generation provider.metadata generation
  rw [patch, Resource.patched?_parts provider hsorted]
  simp only [Members.get?_cons, ↓reduceIte, hmetadata, String.reduceEq, specAfter?_some,
    Members.get?_nil, Resource.statusAfter?_none, Option.map_some, Option.bind_some]
  cases patched? provider.spec change <;> rfl

/-- A contribution is what its patch makes of a provider, if it is accepted. -/
theorem getD_patched? (provider : Provider) (contribution : Contribution) :
    (patched? provider contribution.patch).getD provider = contribution.on provider := by
  cases contribution with
  | mark notifier ip =>
    rw [patch, Resource.patched?_marker, Option.getD_some]
    rfl
  | edit change generation =>
    rw [patched?_edit, on]
    cases patched? provider.spec change <;> rfl

/-- What others make of a provider does not depend on its status, and leaves it alone. -/
theorem on_status (provider : Provider) (status : Option ProviderStatus)
    (contribution : Contribution) :
    contribution.on { provider with status } = { contribution.on provider with status } := by
  cases contribution with
  | mark notifier ip => rfl
  | edit change generation =>
    simp only [on]
    cases patched? provider.spec change <;> rfl

/-! ### Several contributions -/

def isEdit : Contribution → Bool
  | .mark _ _ => false
  | .edit _ _ => true

def markBy? (notifier : ObjectKey) : Contribution → Option String
  | .mark other ip => if other = notifier then some ip else none
  | .edit _ _ => none

def textAt? (key : String) : Contribution → Option String
  | .mark notifier ip => if notifier.marker.key = key then some ip else none
  | .edit _ _ => none

/-- The notifier that writes has a name and a namespace that cannot be mistaken. -/
def Plain : Contribution → Prop
  | .mark notifier _ => notifier.marker.Plain
  | .edit _ _ => True

/-- Nothing but the annotations, the generation and the specification is written. -/
structure Frame (provider provider' : Provider) : Prop where
  metadata : provider'.metadata = { provider.metadata with
    generation := provider'.metadata.generation, annotations := provider'.metadata.annotations }
  status : provider'.status = provider.status

variable {provider : Provider} {written : List Contribution}

theorem frame_on (provider : Provider) (contribution : Contribution) :
    Frame provider (contribution.on provider) := by
  cases contribution with
  | mark notifier ip => exact ⟨rfl, rfl⟩
  | edit change generation =>
    rw [on]
    split <;> exact ⟨rfl, rfl⟩

theorem Frame.trans {a b c : Provider} (first : Frame a b) (second : Frame b c) : Frame a c := by
  refine ⟨?_, second.status.trans first.status⟩
  rw [second.metadata, first.metadata]

theorem frame_foldl (provider : Provider) (written : List Contribution) :
    Frame provider (written.foldl on provider) := by
  induction written generalizing provider with
  | nil => exact ⟨rfl, rfl⟩
  | cons contribution written ih => exact (frame_on provider contribution).trans (ih _)

theorem foldl_status (provider : Provider) (status : Option ProviderStatus)
    (written : List Contribution) :
    written.foldl on { provider with status } = { written.foldl on provider with status } := by
  induction written generalizing provider with
  | nil => rfl
  | cons contribution written ih => rw [List.foldl_cons, List.foldl_cons, on_status, ih]

def SameSpec (a b : Provider) : Prop :=
  a.spec = b.spec ∧ a.metadata.generation = b.metadata.generation

theorem SameSpec.edit {a b : Provider} (same : SameSpec a b) (change : Json) (generation : Int64) :
    SameSpec ((edit change generation).on a) ((edit change generation).on b) := by
  obtain ⟨hspec, hgeneration⟩ := same
  simp only [on, hspec]
  cases patched? b.spec change with
  | none => exact ⟨hspec, hgeneration⟩
  | some spec => exact ⟨rfl, rfl⟩

theorem SameSpec.foldl {a b : Provider} (same : SameSpec a b) (written : List Contribution) :
    SameSpec (written.foldl on a) ((written.filter isEdit).foldl on b) := by
  induction written generalizing a b with
  | nil => exact same
  | cons contribution written ih =>
    cases contribution with
    | mark notifier ip => exact ih same
    | edit change generation => exact ih (same.edit change generation)

theorem lookup_on (provider : Provider) (contribution : Contribution) (key : String) :
    (contribution.on provider).metadata.annotationList.lookup key =
      (contribution.textAt? key).or (provider.metadata.annotationList.lookup key) := by
  cases contribution with
  | mark notifier ip =>
    rw [on, Metadata.annotationList, Option.getD_some, lookup_insertText, textAt?]
    split <;> rfl
  | edit change generation =>
    rw [on]
    split <;> rfl

theorem lookup_foldl (provider : Provider) (written : List Contribution) (key : String) :
    (written.foldl on provider).metadata.annotationList.lookup key =
      ((written.filterMap (textAt? key)).getLast?).or
        (provider.metadata.annotationList.lookup key) := by
  induction written generalizing provider with
  | nil => rfl
  | cons contribution written ih =>
    rw [List.foldl_cons, ih, lookup_on, List.filterMap_cons]
    cases contribution.textAt? key with
    | none => rfl
    | some text =>
      rw [List.getLast?_cons]
      cases (written.filterMap (textAt? key)).getLast? <;> rfl

/-- The key of an annotation tells which notifier it belongs to. -/
theorem filterMap_textAt? {notifier : ObjectKey} (plain : notifier.marker.Plain)
    (written : List Contribution) :
    written.filterMap (textAt? notifier.marker.key) = written.filterMap (markBy? notifier) := by
  apply List.filterMap_congr
  intro contribution _
  cases contribution with
  | edit change generation => rfl
  | mark other ip =>
    have hiff : other.marker.key = notifier.marker.key ↔ other = notifier := by
      constructor
      · intro h
        exact ObjectKey.eq_of_marker_eq (plain.eq_of_key_eq h)
      · rintro rfl
        rfl
    simp only [textAt?, markBy?, hiff]

theorem ordered_on {contribution : Contribution} (ordered : provider.metadata.Ordered) :
    (contribution.on provider).metadata.Ordered := by
  cases contribution with
  | mark notifier ip =>
    rw [on, Metadata.Ordered, Metadata.annotationList, Option.getD_some, textMembers_insertText]
    exact Members.Sorted.insert ordered _ _
  | edit change generation =>
    rw [on]
    split <;> exact ordered

theorem ordered_foldl (ordered : provider.metadata.Ordered) (written : List Contribution) :
    (written.foldl on provider).metadata.Ordered := by
  induction written generalizing provider with
  | nil => exact ordered
  | cons contribution written ih => exact ih (ordered_on ordered)

/-- There are annotations if there were some, or somebody made one. -/
theorem isSome_annotations (provider : Provider) (written : List Contribution) :
    (written.foldl on provider).metadata.annotations.isSome =
      (provider.metadata.annotations.isSome || written.any fun contribution => !contribution.isEdit) := by
  induction written generalizing provider with
  | nil => simp
  | cons contribution written ih =>
    rw [List.foldl_cons, ih, List.any_cons]
    cases contribution with
    | mark notifier ip => simp [on, isEdit]
    | edit change generation =>
      have hkept : ((edit change generation).on provider).metadata.annotations =
          provider.metadata.annotations := by
        rw [on]
        split <;> rfl
      simp [hkept, isEdit]

/-- What each writer wrote, in its own order. -/
structure Alike (written written' : List Contribution) : Prop where
  edits : written'.filter isEdit = written.filter isEdit
  marks : ∀ notifier, written'.filterMap (markBy? notifier) = written.filterMap (markBy? notifier)

theorem Alike.symm {written' : List Contribution} (alike : Alike written written') :
    Alike written' written :=
  ⟨alike.edits.symm, fun notifier => (alike.marks notifier).symm⟩

theorem Alike.mem_mark {written' : List Contribution} (alike : Alike written written')
    {notifier : ObjectKey} {ip : String} (h : mark notifier ip ∈ written) :
    mark notifier ip ∈ written' := by
  have hmark : ip ∈ written.filterMap (markBy? notifier) :=
    List.mem_filterMap.2 ⟨_, h, if_pos rfl⟩
  rw [← alike.marks] at hmark
  obtain ⟨contribution, hcontribution, hip⟩ := List.mem_filterMap.1 hmark
  cases contribution with
  | edit change generation => cases hip
  | mark other ip' =>
    obtain ⟨rfl, rfl⟩ : other = notifier ∧ ip' = ip := by simpa [markBy?] using hip
    exact hcontribution

theorem Alike.any_mark {written' : List Contribution} (alike : Alike written written') :
    (written'.any fun contribution => !contribution.isEdit) =
      written.any fun contribution => !contribution.isEdit := by
  have imp {a b : List Contribution} (alike : Alike a b)
      (h : (a.any fun contribution => !contribution.isEdit) = true) :
      (b.any fun contribution => !contribution.isEdit) = true := by
    rw [List.any_eq_true] at h ⊢
    obtain ⟨contribution, hcontribution, hmark⟩ := h
    cases contribution with
    | edit change generation => cases hmark
    | mark notifier ip => exact ⟨_, alike.mem_mark hcontribution, rfl⟩
  rw [Bool.eq_iff_iff]
  exact ⟨imp alike.symm, imp alike⟩

/-- What is last put under the key of an annotation does not depend on the order of the writers. -/
theorem Alike.textAt {written' : List Contribution} (alike : Alike written written')
    (plain : ∀ contribution ∈ written, contribution.Plain) (key : String) :
    written'.filterMap (textAt? key) = written.filterMap (textAt? key) := by
  by_cases hmark : ∃ notifier ip, mark notifier ip ∈ written ∧ notifier.marker.key = key
  · obtain ⟨notifier, ip, hmem, rfl⟩ := hmark
    have hplain : notifier.marker.Plain := plain _ hmem
    rw [filterMap_textAt? hplain, filterMap_textAt? hplain, alike.marks]
  · have hnone {list : List Contribution}
        (h : ∀ notifier ip, mark notifier ip ∈ list → mark notifier ip ∈ written) :
        list.filterMap (textAt? key) = [] := by
      rw [List.filterMap_eq_nil_iff]
      intro contribution hcontribution
      cases contribution with
      | edit change generation => rfl
      | mark notifier ip =>
        rw [textAt?, if_neg]
        intro hkey
        exact hmark ⟨notifier, ip, h notifier ip hcontribution, hkey⟩
    rw [hnone fun _ _ => alike.symm.mem_mark, hnone fun _ _ => id]

/-- It does not matter in which order different writers write. -/
theorem foldl_eq_of_alike (provider : Provider) (ordered : provider.metadata.Ordered)
    {written' : List Contribution} (alike : Alike written written')
    (plain : ∀ contribution ∈ written, contribution.Plain) :
    written'.foldl on provider = written.foldl on provider := by
  have frame := frame_foldl provider written
  have frame' := frame_foldl provider written'
  have sameSpec := SameSpec.foldl (a := provider) ⟨rfl, rfl⟩ written
  have sameSpec' := SameSpec.foldl (a := provider) ⟨rfl, rfl⟩ written'
  rw [alike.edits] at sameSpec'
  have hsome := isSome_annotations provider written
  have hsome' := isSome_annotations provider written'
  rw [alike.any_mark, ← hsome] at hsome'
  have hlist : (written'.foldl on provider).metadata.annotationList =
      (written.foldl on provider).metadata.annotationList := by
    apply textMembers_injective
    apply Members.Sorted.ext (ordered_foldl ordered written') (ordered_foldl ordered written)
    intro key
    rw [get?_textMembers, get?_textMembers, lookup_foldl, lookup_foldl, alike.textAt plain]
  have hannotations : (written'.foldl on provider).metadata.annotations =
      (written.foldl on provider).metadata.annotations := by
    rw [Metadata.annotationList, Metadata.annotationList] at hlist
    cases h : (written.foldl on provider).metadata.annotations <;>
      cases h' : (written'.foldl on provider).metadata.annotations <;> simp_all
  have hmetadata : (written'.foldl on provider).metadata = (written.foldl on provider).metadata := by
    rw [frame.metadata, frame'.metadata, hannotations, sameSpec'.2, ← sameSpec.2]
  have hspec := sameSpec'.1.trans sameSpec.1.symm
  have hstatus := frame'.status.trans frame.status.symm
  generalize written'.foldl on provider = a at *
  generalize written.foldl on provider = b at *
  obtain ⟨metadata, spec, status⟩ := a
  cases hmetadata
  cases hspec
  cases hstatus
  rfl

end Contribution

theorem Cluster.patch_mark {cluster : Cluster} {key : ObjectKey} {stored : Provider}
    (found : cluster.stored? key = some stored) (notifier : ObjectKey) (ip : String) :
    cluster.patch .provider key (notifier.marker.patch ip) =
      .ok (cluster.store key (Contribution.on stored (.mark notifier ip))) := by
  have hpatch := patch_of_stored found (notifier.marker.patch ip)
  rw [Resource.patched?_marker] at hpatch
  exact hpatch

end DynamicDns
