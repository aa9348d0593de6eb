import DynamicDns.Proofs.Json.Patch
import DynamicDns.Resource.Notifier
import DynamicDns.Resource.Provider

/-!
# Resources as they are written

What stands under each key of a written object, and what reading an object depends on: only on what
stands under the keys of its fields. So an object that was changed under one key reads as before in
all other fields, and the metadata of a resource reads back as it was written.
-/

namespace DynamicDns

namespace Json

def slot (members : Members) (field : String) : Slot :=
  match members.get? field with
  | some value => .given value
  | none => .missing

theorem slot_required {α : Type} (members : Members) (field : String) (read : Json → Option α) :
    (slot members field).required read = (members.get? field).bind read := by
  rw [slot]
  split <;> rename_i h <;> rw [h] <;> rfl

theorem Slot.optional_given {α : Type} (read : Json → Option α) {value : Json} (h : value ≠ .null) :
    (Slot.given value).optional read = (read value).map some := by
  cases value
  case null => exact absurd rfl h
  all_goals rfl

/-- A field that may be missing reads back if every value of it does, and is not written `null`. -/
theorem slot_optional {α : Type} {members : Members} {field : String} {write : α → Json}
    {read : Json → Option α} {value : Option α} (written : members.get? field = value.map write)
    (readable : ∀ a, read (write a) = some a) (notNull : ∀ a, write a ≠ .null) :
    (slot members field).optional read = some value := by
  rw [slot, written]
  cases value with
  | none => rfl
  | some a =>
    change (Slot.given (write a)).optional read = _
    rw [Slot.optional_given read (notNull a), readable, Option.map_some]

/-! ### Numbers and texts -/

theorem toInt64?_ofInt64 (value : Int64) : toInt64? (ofInt64 value) = some value := by
  have low := value.minValue_le_toInt
  have high := value.toInt_le
  rw [toInt64?, ofInt64, int64?, intWithin?, if_pos ⟨low, high⟩, Option.map_some, Int64.ofInt_toInt]

def textMembers (texts : List (String × String)) : Members :=
  texts.map fun entry => (entry.1, .str entry.2)

theorem toTexts?_textMembers (texts : List (String × String)) :
    toTexts? (.obj (textMembers texts)) = some texts := by
  change (texts.map fun entry => (entry.1, Json.str entry.2)).mapM
    (fun member => (string? member.2).map (member.1, ·)) = some texts
  rw [List.mapM_map]
  induction texts with
  | nil => rfl
  | cons head rest ih =>
    rw [List.mapM_cons, ih]
    rfl

theorem get?_textMembers (texts : List (String × String)) (key : String) :
    (textMembers texts).get? key = (texts.lookup key).map Json.str := by
  induction texts with
  | nil => rfl
  | cons head rest ih =>
    obtain ⟨k, text⟩ := head
    rw [List.lookup_cons]
    change (if k = key then some (Json.str text) else (textMembers rest).get? key) = _
    rw [ih]
    by_cases hk : k = key
    · rw [if_pos hk, beq_iff_eq.2 hk.symm]
      rfl
    · rw [if_neg hk, beq_false_of_ne (Ne.symm hk)]

end Json

open Json

/-! ### Annotations -/

def insertText (key text : String) : List (String × String) → List (String × String)
  | [] => [(key, text)]
  | (k, old) :: rest =>
    if key = k then (key, text) :: rest
    else if key < k then (key, text) :: (k, old) :: rest
    else (k, old) :: insertText key text rest

theorem textMembers_insertText (key text : String) (texts : List (String × String)) :
    textMembers (insertText key text texts) = (textMembers texts).insert key (.str text) := by
  induction texts with
  | nil => rfl
  | cons head rest ih =>
    obtain ⟨k, old⟩ := head
    change _ = Members.insert key (.str text) ((k, .str old) :: textMembers rest)
    rw [insertText, Members.insert, ← ih]
    split
    · rfl
    · split <;> rfl

theorem textMembers_injective : Function.Injective textMembers := by
  intro a b h
  have hread := toTexts?_textMembers a
  rw [h, toTexts?_textMembers] at hread
  exact (Option.some.inj hread).symm

theorem lookup_insertText (key text other : String) (texts : List (String × String)) :
    (insertText key text texts).lookup other = if key = other then some text else texts.lookup other := by
  have hget := get?_textMembers (insertText key text texts) other
  rw [textMembers_insertText, Members.get?_insert, get?_textMembers] at hget
  apply Option.map_injective (fun _ _ h => Json.str.inj h)
  rw [← hget]
  split <;> rfl

/-! ### Metadata -/

namespace Metadata

def written (metadata : Metadata) : Members :=
  Members.ofList (
    member? "annotations" (metadata.annotations.map ofTexts) ++
    member? "generateName" (metadata.generateName.map Json.str) ++
    member? "generation" (metadata.generation.map ofInt64) ++
    member? "labels" (metadata.labels.map ofTexts) ++
    member? "name" (metadata.name.map Json.str) ++
    member? "namespace" (metadata.ns.map Json.str) ++
    member? "resourceVersion" (metadata.resourceVersion.map Json.str) ++
    member? "uid" (metadata.uid.map Json.str))

theorem get?_written (metadata : Metadata) (key : String) :
    metadata.written.get? key =
      (if "uid" = key then metadata.uid.map Json.str else none).or
      ((if "resourceVersion" = key then metadata.resourceVersion.map Json.str else none).or
      ((if "namespace" = key then metadata.ns.map Json.str else none).or
      ((if "name" = key then metadata.name.map Json.str else none).or
      ((if "labels" = key then metadata.labels.map ofTexts else none).or
      ((if "generation" = key then metadata.generation.map ofInt64 else none).or
      ((if "generateName" = key then metadata.generateName.map Json.str else none).or
      (if "annotations" = key then metadata.annotations.map ofTexts else none))))))) := by
  simp only [written, Members.get?_ofList, List.reverse_append, Members.reverse_member?, Members.get?_append,
    Members.get?_member?]

theorem get?_written_annotations (metadata : Metadata) :
    metadata.written.get? "annotations" = metadata.annotations.map ofTexts := by
  simp [get?_written]

theorem decode?_obj {members : Members} {metadata : Metadata}
    (h : ∀ key, members.get? key = metadata.written.get? key) :
    decode? (.obj members) = some metadata := by
  have text (field : String) (value : Option String)
      (hfield : metadata.written.get? field = value.map Json.str) :
      (slot members field).optional string? = some value :=
    slot_optional ((h field).trans hfield) (fun _ => rfl) (fun _ => Json.noConfusion)
  have texts (field : String) (value : Option (List (String × String)))
      (hfield : metadata.written.get? field = value.map ofTexts) :
      (slot members field).optional toTexts? = some value :=
    slot_optional ((h field).trans hfield) toTexts?_textMembers (fun _ => Json.noConfusion)
  have generation : (slot members "generation").optional toInt64? = some metadata.generation :=
    slot_optional ((h _).trans (by simp [get?_written])) toInt64?_ofInt64 (fun _ => Json.noConfusion)
  change (do return {
    name := ← (slot members "name").optional string?
    ns := ← (slot members "namespace").optional string?
    generateName := ← (slot members "generateName").optional string?
    generation := ← (slot members "generation").optional toInt64?
    annotations := ← (slot members "annotations").optional toTexts?
    labels := ← (slot members "labels").optional toTexts?
    resourceVersion := ← (slot members "resourceVersion").optional string?
    uid := ← (slot members "uid").optional string? } : Option Metadata) = some metadata
  rw [text "name" metadata.name (by simp [get?_written]),
    text "namespace" metadata.ns (by simp [get?_written]),
    text "generateName" metadata.generateName (by simp [get?_written]), generation,
    texts "annotations" metadata.annotations (by simp [get?_written]),
    texts "labels" metadata.labels (by simp [get?_written]),
    text "resourceVersion" metadata.resourceVersion (by simp [get?_written]),
    text "uid" metadata.uid (by simp [get?_written])]
  rfl

def Ordered (metadata : Metadata) : Prop := (textMembers metadata.annotationList).Sorted

def annotated (metadata : Metadata) (key text : String) : Metadata :=
  { metadata with annotations := some (insertText key text metadata.annotationList) }

theorem lookup_annotated (metadata : Metadata) (key text other : String) :
    (metadata.annotated key text).annotationList.lookup other =
      if key = other then some text else metadata.annotationList.lookup other :=
  lookup_insertText key text other _

theorem Ordered.annotated {metadata : Metadata} (ordered : metadata.Ordered) (key text : String) :
    (metadata.annotated key text).Ordered := by
  rw [Ordered, Metadata.annotated, annotationList, Option.getD_some, textMembers_insertText]
  exact Members.Sorted.insert ordered _ _

end Metadata

/-! ### Resources -/

namespace Resource

variable {σ τ : Type} [Codec σ] [Status τ]

def written (resource : Resource σ τ) : Members :=
  Members.ofList (
    [("apiVersion", .str apiGroupVersion), ("kind", .str (Status.kind τ).name),
      ("metadata", Codec.encode resource.metadata), ("spec", Codec.encode resource.spec)] ++
    member? "status" (resource.status.map Codec.encode))

theorem get?_written (resource : Resource σ τ) (key : String) :
    resource.written.get? key =
      (if "status" = key then resource.status.map Codec.encode else none).or
      (if "spec" = key then some (Codec.encode resource.spec)
      else if "metadata" = key then some (Codec.encode resource.metadata)
      else if "kind" = key then some (.str (Status.kind τ).name)
      else if "apiVersion" = key then some (.str apiGroupVersion) else none) := by
  rw [written, Members.get?_ofList, List.reverse_append, Members.reverse_member?,
    Members.get?_append, Members.get?_member?]
  rfl

theorem get?_written_metadata (resource : Resource σ τ) :
    resource.written.get? "metadata" = some (.obj resource.metadata.written) := by
  rw [get?_written, if_neg (by decide), if_neg (by decide), if_pos rfl]
  rfl

theorem get?_written_status (resource : Resource σ τ) :
    resource.written.get? "status" = resource.status.map Codec.encode := by
  simp [get?_written]

theorem decode?_obj_eq_some {members : Members} {resource : Resource σ τ} :
    decode? (.obj members) = some resource ↔
      (members.get? "metadata").bind Codec.decode? = some resource.metadata ∧
        (members.get? "spec").bind Codec.decode? = some resource.spec ∧
          (slot members "status").optional Codec.decode? = some resource.status := by
  change (do return {
    metadata := ← (slot members "metadata").required Codec.decode?
    spec := ← (slot members "spec").required Codec.decode?
    status := ← (slot members "status").optional Codec.decode? } : Option (Resource σ τ)) =
      some resource ↔ _
  rw [slot_required, slot_required]
  constructor
  · intro h
    obtain ⟨metadata, hmetadata, h⟩ := Option.bind_eq_some_iff.1 h
    obtain ⟨spec, hspec, h⟩ := Option.bind_eq_some_iff.1 h
    obtain ⟨status, hstatus, h⟩ := Option.bind_eq_some_iff.1 h
    cases h
    exact ⟨hmetadata, hspec, hstatus⟩
  · rintro ⟨hmetadata, hspec, hstatus⟩
    rw [hmetadata, hspec, hstatus]
    rfl

end Resource

end DynamicDns
