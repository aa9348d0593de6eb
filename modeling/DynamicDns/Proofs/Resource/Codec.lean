import DynamicDns.Proofs.Json.Solid
import DynamicDns.Proofs.Resource.Patched
import DynamicDns.Proofs.Resource.Facet

/-!
# Records read back

Each record is read off the slots of its fields, and each of its fields is lawful. So specifications,
conditions and references read back as they were written, and what is written is solid (`Json.Solid`).
A status does so too, and a status that is merged with the patch between two others reads as the second
wherever it read as the first (`LawfulStatus`), also where there was no status at all.
-/

namespace DynamicDns

open Json

theorem slot_written {α : Type} {field : Facet α} (lawful : field.Lawful) {members : Members}
    {key : String} {a : α} (h : members.get? key = field.write a) :
    field.read (slot members key) = some a := by
  rw [slot_eq_slotOf, h]
  exact lawful.read_written a

/-! ### Conditions and references -/

namespace Condition

def written (condition : Condition) : Members :=
  Members.ofList (
    [("type", .str condition.type), ("status", .str condition.status)] ++
    member? "reason" (condition.reason.map Json.str) ++
    member? "message" (condition.message.map Json.str) ++
    member? "observedGeneration" (condition.observedGeneration.map ofInt64) ++
    member? "lastTransitionTime" (condition.lastTransitionTime.map Json.str))

theorem get?_written (condition : Condition) (key : String) :
    condition.written.get? key =
      (if "lastTransitionTime" = key then condition.lastTransitionTime.map Json.str else none).or
      ((if "observedGeneration" = key then condition.observedGeneration.map ofInt64 else none).or
      ((if "message" = key then condition.message.map Json.str else none).or
      ((if "reason" = key then condition.reason.map Json.str else none).or
      (if "status" = key then some (.str condition.status)
      else if "type" = key then some (.str condition.type) else none)))) := by
  simp [written, Members.get?_ofList, Members.reverse_member?, Members.get?_append]

theorem decode?_encode (condition : Condition) : decode? condition.encode = some condition := by
  change (do return {
    type := ← Facet.text.read (slot condition.written "type")
    status := ← Facet.text.read (slot condition.written "status")
    reason := ← Facet.optionalText.read (slot condition.written "reason")
    message := ← Facet.optionalText.read (slot condition.written "message")
    observedGeneration := ← Facet.optionalNumber.read (slot condition.written "observedGeneration")
    lastTransitionTime := ← Facet.optionalText.read (slot condition.written "lastTransitionTime") } :
      Option Condition) = some condition
  have htype : Facet.text.read (slot condition.written "type") = some condition.type :=
    slot_written Facet.lawful_text (by simp [get?_written, Facet.text])
  have hstatus : Facet.text.read (slot condition.written "status") = some condition.status :=
    slot_written Facet.lawful_text (by simp [get?_written, Facet.text])
  have hreason : Facet.optionalText.read (slot condition.written "reason") =
      some condition.reason :=
    slot_written Facet.lawful_optionalText (by simp [get?_written, Facet.optionalText])
  have hmessage : Facet.optionalText.read (slot condition.written "message") =
      some condition.message :=
    slot_written Facet.lawful_optionalText (by simp [get?_written, Facet.optionalText])
  have hgeneration : Facet.optionalNumber.read (slot condition.written "observedGeneration") =
      some condition.observedGeneration :=
    slot_written Facet.lawful_optionalNumber (by simp [get?_written, Facet.optionalNumber])
  have htime : Facet.optionalText.read (slot condition.written "lastTransitionTime") =
      some condition.lastTransitionTime :=
    slot_written Facet.lawful_optionalText (by simp [get?_written, Facet.optionalText])
  rw [htype, hstatus, hreason, hmessage, hgeneration, htime]
  rfl

theorem solid_encode (condition : Condition) : condition.encode.Solid := by
  apply solid_object
  simp only [List.forall_mem_append, List.forall_mem_cons]
  refine ⟨⟨⟨⟨⟨.str _, .str _, fun _ => nofun⟩, ?_⟩, ?_⟩, ?_⟩, ?_⟩
  · exact solid_member? _ (solid_map .str condition.reason)
  · exact solid_member? _ (solid_map .str condition.message)
  · exact solid_member? _ (solid_map solid_ofInt64 condition.observedGeneration)
  · exact solid_member? _ (solid_map .str condition.lastTransitionTime)

instance : LawfulCodec Condition := ⟨decode?_encode, fun condition => condition.solid_encode.exact⟩

end Condition

namespace Reference

def written (reference : Reference) : Members :=
  Members.ofList (member? "name" (some (.str reference.name)) ++
    member? "namespace" (reference.ns.map Json.str))

theorem decode?_encode (reference : Reference) : decode? reference.encode = some reference := by
  change (do return {
    name := ← Facet.text.read (slot reference.written "name")
    ns := ← Facet.trailingText.read (slot reference.written "namespace") } : Option Reference) =
      some reference
  have hname : Facet.text.read (slot reference.written "name") = some reference.name :=
    slot_written Facet.lawful_text (by
      simp [written, Members.get?_ofList, Members.reverse_member?, Members.get?_append, Facet.text])
  have hns : Facet.trailingText.read (slot reference.written "namespace") = some reference.ns :=
    slot_written Facet.lawful_trailingText (by
      simp [written, Members.get?_ofList, Members.reverse_member?, Members.get?_append,
        Facet.trailingText])
  rw [hname, hns]
  rfl

theorem solid_encode (reference : Reference) : reference.encode.Solid := by
  apply solid_object
  simp only [List.forall_mem_append, List.forall_mem_singleton]
  exact ⟨.str _, solid_member? _ (solid_map .str reference.ns)⟩

instance : LawfulCodec Reference := ⟨decode?_encode, fun reference => reference.solid_encode.exact⟩

end Reference

/-! ### Specifications -/

namespace NotifierSpec

def written (spec : NotifierSpec) : Members :=
  Members.ofList [("name", .str spec.name), ("secretName", .str spec.secretName),
    ("configMap", .str spec.configMap)]

theorem decode?_encode (spec : NotifierSpec) : decode? spec.encode = some spec := by
  change (do return {
    name := ← Facet.text.read (slot spec.written "name")
    secretName := ← Facet.text.read (slot spec.written "secretName")
    configMap := ← Facet.text.read (slot spec.written "configMap") } : Option NotifierSpec) = some spec
  have reads (key value : String) (h : spec.written.get? key = some (.str value)) :
      Facet.text.read (slot spec.written key) = some value :=
    slot_written Facet.lawful_text h
  rw [reads "name" spec.name (by simp [written, Members.get?_ofList]),
    reads "secretName" spec.secretName (by simp [written, Members.get?_ofList]),
    reads "configMap" spec.configMap (by simp [written, Members.get?_ofList])]
  rfl

theorem solid_encode (spec : NotifierSpec) : spec.encode.Solid := by
  apply solid_object
  simp only [List.forall_mem_cons]
  exact ⟨.str _, .str _, .str _, fun _ => nofun⟩

instance : LawfulCodec NotifierSpec := ⟨decode?_encode, fun spec => spec.solid_encode.exact⟩

end NotifierSpec

namespace ProviderSpec

def written (spec : ProviderSpec) : Members :=
  Members.ofList (
    [("name", .str spec.name), ("secretName", .str spec.secretName),
      ("configMap", .str spec.configMap), ("retryInterval", ofInt64 spec.retryInterval)] ++
    member? "customIPProvider" (spec.customIpProvider.map Json.str) ++
    member? "notifierRefs"
      (if spec.notifierRefs.isEmpty then none else some (ofItems spec.notifierRefs)))

theorem get?_written (spec : ProviderSpec) (key : String) :
    spec.written.get? key =
      (if "notifierRefs" = key then
        (if spec.notifierRefs.isEmpty then none else some (ofItems spec.notifierRefs))
      else none).or
      ((if "customIPProvider" = key then spec.customIpProvider.map Json.str else none).or
      (if "retryInterval" = key then some (ofInt64 spec.retryInterval)
      else if "configMap" = key then some (.str spec.configMap)
      else if "secretName" = key then some (.str spec.secretName)
      else if "name" = key then some (.str spec.name) else none)) := by
  simp only [written, Members.get?_ofList, List.reverse_append, Members.reverse_member?,
    Members.get?_append, Members.get?_member?]
  rfl

theorem decode?_encode (spec : ProviderSpec) : decode? spec.encode = some spec := by
  change (do return {
    name := ← Facet.text.read (slot spec.written "name")
    secretName := ← Facet.text.read (slot spec.written "secretName")
    configMap := ← Facet.text.read (slot spec.written "configMap")
    retryInterval := ← (Facet.number defaultRetryInterval).read (slot spec.written "retryInterval")
    customIpProvider := ← Facet.trailingText.read (slot spec.written "customIPProvider")
    notifierRefs := ← (Facet.shownItems Reference).read (slot spec.written "notifierRefs") } :
      Option ProviderSpec) = some spec
  have reads (key value : String) (h : spec.written.get? key = some (.str value)) :
      Facet.text.read (slot spec.written key) = some value :=
    slot_written Facet.lawful_text h
  have hinterval : (Facet.number defaultRetryInterval).read (slot spec.written "retryInterval") =
      some spec.retryInterval :=
    slot_written (Facet.lawful_number _) (by simp [get?_written, Facet.number])
  have hcustom : Facet.trailingText.read (slot spec.written "customIPProvider") =
      some spec.customIpProvider :=
    slot_written Facet.lawful_trailingText (by simp [get?_written, Facet.trailingText])
  have hrefs : (Facet.shownItems Reference).read (slot spec.written "notifierRefs") =
      some spec.notifierRefs :=
    slot_written Facet.lawful_shownItems (by simp [get?_written, Facet.shownItems])
  rw [reads "name" spec.name (by simp [get?_written]),
    reads "secretName" spec.secretName (by simp [get?_written]),
    reads "configMap" spec.configMap (by simp [get?_written]), hinterval, hcustom, hrefs]
  rfl

theorem solid_encode (spec : ProviderSpec) : spec.encode.Solid := by
  apply solid_object
  simp only [List.forall_mem_append, List.forall_mem_cons]
  refine ⟨⟨⟨.str _, .str _, .str _, .int _, fun _ => nofun⟩, ?_⟩, ?_⟩
  · exact solid_member? _ (solid_map .str spec.customIpProvider)
  · exact solid_member? _ (solid_ite (solid_ofItems Reference.solid_encode spec.notifierRefs))

instance : LawfulCodec ProviderSpec := ⟨decode?_encode, fun spec => spec.solid_encode.exact⟩

end ProviderSpec

/-! ### Statuses -/

/-- A status that can be kept by merge patches: it reads back, the patch between two statuses leads
from whatever reads as the first to something that reads as the second, and where there was none a
whole status can be merged. -/
class LawfulStatus (τ : Type) [Status τ] : Prop where
  encode_eq_obj : ∀ a : τ, ∃ members, Codec.encode a = .obj members
  decode?_encode : ∀ a : τ, Codec.decode? (Codec.encode a) = some a
  decode?_merge : ∀ (members : Members) (before after : τ),
    Codec.decode? (.obj members) = some before →
      Codec.decode? (applyPatch (.obj members)
        (diff (Codec.encode before) (Codec.encode after))) = some after
  decode?_fresh : ∀ a : τ, Codec.decode? (applyPatch (.obj []) (Codec.encode a)) = some a
  decode?_empty : Codec.decode? (.obj []) = some (Status.initial : τ)
  conditions_initial : Status.conditions (Status.initial : τ) = []
  conditions_withConditions : ∀ (a : τ) (conditions : List Condition),
    Status.conditions (Status.withConditions a conditions) = conditions
  withConditions_conditions : ∀ a : τ, Status.withConditions a (Status.conditions a) = a

theorem slot_merged {α : Type} {field : Facet α} (lawful : field.Lawful)
    {members before after : Members} {key : String} {x y : α}
    (hbefore : before.Sorted) (hafter : after.Sorted) (hx : before.get? key = field.write x)
    (hy : after.get? key = field.write y) (hread : field.read (slot members key) = some x) :
    field.read (slot (applyChanges members (before.differences after)) key) = some y := by
  rw [slot_eq_slotOf, Members.get?_applyChanges (Members.sorted_differences _ _),
    Members.get?_differences hbefore hafter, hx, hy]
  rw [slot_eq_slotOf] at hread
  exact lawful.read_changed y hread

theorem slot_fresh {α : Type} {field : Facet α} (lawful : field.Lawful) {after : Members}
    {key : String} {y : α} (hafter : after.Sorted) (hy : after.get? key = field.write y) :
    field.read (slot (applyChanges [] after) key) = some y := by
  have hread := lawful.read_written y
  rw [slot_eq_slotOf, Members.get?_applyChanges hafter, Members.get?_nil, hy]
  cases hwrite : field.write y with
  | none => rwa [hwrite] at hread
  | some value =>
    rw [(lawful.plain y value hwrite).changed]
    rwa [hwrite] at hread

namespace ProviderStatus

def written (status : ProviderStatus) : Members :=
  Members.ofList (
    member? "providerIP" (nonEmptyText? status.providerIp) ++
    member? "publicIP" (nonEmptyText? status.publicIp) ++
    member? "observedGeneration" (status.observedGeneration.map ofInt64) ++
    [("conditions", ofItems status.conditions)])

theorem sorted_written (status : ProviderStatus) : status.written.Sorted :=
  Members.sorted_ofList _

theorem get?_written (status : ProviderStatus) (key : String) :
    status.written.get? key =
      if "conditions" = key then some (ofItems status.conditions)
      else (if "observedGeneration" = key then status.observedGeneration.map ofInt64 else none).or
        ((if "publicIP" = key then nonEmptyText? status.publicIp else none).or
        (if "providerIP" = key then nonEmptyText? status.providerIp else none)) := by
  simp [written, Members.get?_ofList, Members.reverse_member?, Members.get?_append]

/-- What a slot of each field has to say for an object to read as a status. -/
theorem decode?_obj_iff {members : Members} {status : ProviderStatus} :
    decode? (.obj members) = some status ↔
      Facet.shownText.read (slot members "providerIP") = some status.providerIp ∧
        Facet.shownText.read (slot members "publicIP") = some status.publicIp ∧
          Facet.optionalNumber.read (slot members "observedGeneration") =
            some status.observedGeneration ∧
            (Facet.items Condition).read (slot members "conditions") = some status.conditions := by
  change (do return {
    providerIp := ← Facet.shownText.read (slot members "providerIP")
    publicIp := ← Facet.shownText.read (slot members "publicIP")
    observedGeneration := ← Facet.optionalNumber.read (slot members "observedGeneration")
    conditions := ← (Facet.items Condition).read (slot members "conditions") } :
      Option ProviderStatus) = some status ↔ _
  constructor
  · intro h
    obtain ⟨providerIp, hprovider, h⟩ := Option.bind_eq_some_iff.1 h
    obtain ⟨publicIp, hpublic, h⟩ := Option.bind_eq_some_iff.1 h
    obtain ⟨generation, hgeneration, h⟩ := Option.bind_eq_some_iff.1 h
    obtain ⟨conditions, hconditions, h⟩ := Option.bind_eq_some_iff.1 h
    cases h
    exact ⟨hprovider, hpublic, hgeneration, hconditions⟩
  · rintro ⟨hprovider, hpublic, hgeneration, hconditions⟩
    rw [hprovider, hpublic, hgeneration, hconditions]
    rfl

theorem get?_written_fields (status : ProviderStatus) :
    status.written.get? "providerIP" = Facet.shownText.write status.providerIp ∧
      status.written.get? "publicIP" = Facet.shownText.write status.publicIp ∧
        status.written.get? "observedGeneration" =
          Facet.optionalNumber.write status.observedGeneration ∧
          status.written.get? "conditions" = (Facet.items Condition).write status.conditions := by
  simp [get?_written, Facet.shownText, Facet.optionalNumber, Facet.items]

theorem solid_encode (status : ProviderStatus) : status.encode.Solid := by
  apply solid_object
  simp only [List.forall_mem_append, List.forall_mem_singleton]
  refine ⟨⟨⟨?_, ?_⟩, ?_⟩, solid_ofItems Condition.solid_encode status.conditions⟩
  · exact solid_member? _ (solid_ite (.str status.providerIp))
  · exact solid_member? _ (solid_ite (.str status.publicIp))
  · exact solid_member? _ (solid_map solid_ofInt64 status.observedGeneration)

instance : LawfulStatus ProviderStatus where
  encode_eq_obj status := ⟨status.written, rfl⟩
  decode?_encode status := by
    obtain ⟨hprovider, hpublic, hgeneration, hconditions⟩ := status.get?_written_fields
    exact decode?_obj_iff.2 ⟨slot_written Facet.lawful_shownText hprovider,
      slot_written Facet.lawful_shownText hpublic,
      slot_written Facet.lawful_optionalNumber hgeneration,
      slot_written Facet.lawful_items hconditions⟩
  decode?_merge members before after h := by
    obtain ⟨hprovider, hpublic, hgeneration, hconditions⟩ := decode?_obj_iff.1 h
    obtain ⟨hprovider₁, hpublic₁, hgeneration₁, hconditions₁⟩ := before.get?_written_fields
    obtain ⟨hprovider₂, hpublic₂, hgeneration₂, hconditions₂⟩ := after.get?_written_fields
    have hsorted := before.sorted_written
    have hsorted' := after.sorted_written
    change decode? (applyPatch _ (diff (.obj before.written) (.obj after.written))) = _
    rw [diff_obj, applyPatch]
    exact decode?_obj_iff.2 ⟨
      slot_merged Facet.lawful_shownText hsorted hsorted' hprovider₁ hprovider₂ hprovider,
      slot_merged Facet.lawful_shownText hsorted hsorted' hpublic₁ hpublic₂ hpublic,
      slot_merged Facet.lawful_optionalNumber hsorted hsorted' hgeneration₁ hgeneration₂ hgeneration,
      slot_merged Facet.lawful_items hsorted hsorted' hconditions₁ hconditions₂ hconditions⟩
  decode?_fresh status := by
    obtain ⟨hprovider, hpublic, hgeneration, hconditions⟩ := status.get?_written_fields
    have hsorted := status.sorted_written
    change decode? (applyPatch _ (.obj status.written)) = _
    rw [applyPatch]
    exact decode?_obj_iff.2 ⟨slot_fresh Facet.lawful_shownText hsorted hprovider,
      slot_fresh Facet.lawful_shownText hsorted hpublic,
      slot_fresh Facet.lawful_optionalNumber hsorted hgeneration,
      slot_fresh Facet.lawful_items hsorted hconditions⟩
  decode?_empty := rfl
  conditions_initial := rfl
  conditions_withConditions _ _ := rfl
  withConditions_conditions _ := rfl

end ProviderStatus

namespace NotifierStatus

theorem get?_written_fields (status : NotifierStatus) :
    status.written.get? "isReady" = Facet.flag.write status.isReady ∧
      status.written.get? "observedGeneration" =
        Facet.optionalNumber.write status.observedGeneration ∧
        status.written.get? "conditions" = (Facet.items Condition).write status.conditions := by
  simp [written, Members.get?_ofList, Members.reverse_member?, Members.get?_append, Facet.flag,
    Facet.optionalNumber, Facet.items]

/-- What a slot of each field has to say for an object to read as a status. -/
theorem decode?_obj_iff {members : Members} {status : NotifierStatus} :
    decode? (.obj members) = some status ↔
      Facet.flag.read (slot members "isReady") = some status.isReady ∧
        Facet.optionalNumber.read (slot members "observedGeneration") =
          some status.observedGeneration ∧
          (Facet.items Condition).read (slot members "conditions") = some status.conditions := by
  change (do return {
    isReady := ← Facet.flag.read (slot members "isReady")
    observedGeneration := ← Facet.optionalNumber.read (slot members "observedGeneration")
    conditions := ← (Facet.items Condition).read (slot members "conditions") } :
      Option NotifierStatus) = some status ↔ _
  constructor
  · intro h
    obtain ⟨ready, hready, h⟩ := Option.bind_eq_some_iff.1 h
    obtain ⟨generation, hgeneration, h⟩ := Option.bind_eq_some_iff.1 h
    obtain ⟨conditions, hconditions, h⟩ := Option.bind_eq_some_iff.1 h
    cases h
    exact ⟨hready, hgeneration, hconditions⟩
  · rintro ⟨hready, hgeneration, hconditions⟩
    rw [hready, hgeneration, hconditions]
    rfl

theorem solid_encode (status : NotifierStatus) : status.encode.Solid := by
  apply solid_object
  simp only [List.forall_mem_append, List.forall_mem_singleton]
  refine ⟨⟨.bool _, ?_⟩, solid_ofItems Condition.solid_encode status.conditions⟩
  exact solid_member? _ (solid_map solid_ofInt64 status.observedGeneration)

instance : LawfulStatus NotifierStatus where
  encode_eq_obj status := ⟨status.written, rfl⟩
  decode?_encode status := by
    obtain ⟨hready, hgeneration, hconditions⟩ := status.get?_written_fields
    exact decode?_obj_iff.2 ⟨slot_written Facet.lawful_flag hready,
      slot_written Facet.lawful_optionalNumber hgeneration,
      slot_written Facet.lawful_items hconditions⟩
  decode?_merge members before after h := by
    obtain ⟨hready, hgeneration, hconditions⟩ := decode?_obj_iff.1 h
    obtain ⟨hready₁, hgeneration₁, hconditions₁⟩ := before.get?_written_fields
    obtain ⟨hready₂, hgeneration₂, hconditions₂⟩ := after.get?_written_fields
    have hsorted := before.sorted_written
    have hsorted' := after.sorted_written
    change decode? (applyPatch _ (diff (.obj before.written) (.obj after.written))) = _
    rw [diff_obj, applyPatch]
    exact decode?_obj_iff.2 ⟨
      slot_merged Facet.lawful_flag hsorted hsorted' hready₁ hready₂ hready,
      slot_merged Facet.lawful_optionalNumber hsorted hsorted' hgeneration₁ hgeneration₂ hgeneration,
      slot_merged Facet.lawful_items hsorted hsorted' hconditions₁ hconditions₂ hconditions⟩
  decode?_fresh status := by
    obtain ⟨hready, hgeneration, hconditions⟩ := status.get?_written_fields
    have hsorted := status.sorted_written
    change decode? (applyPatch _ (.obj status.written)) = _
    rw [applyPatch]
    exact decode?_obj_iff.2 ⟨slot_fresh Facet.lawful_flag hsorted hready,
      slot_fresh Facet.lawful_optionalNumber hsorted hgeneration,
      slot_fresh Facet.lawful_items hsorted hconditions⟩
  decode?_empty := rfl
  conditions_initial := rfl
  conditions_withConditions _ _ := rfl
  withConditions_conditions _ := rfl

end NotifierStatus

end DynamicDns
