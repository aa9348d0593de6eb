import DynamicDns.Cloudflare.Config
import DynamicDns.Proofs.Resource.Codec

/-!
# What is kept as JSON

Specifications and statuses are kept by the API server, and the configuration of an account is kept in
a config map. Each of them reads back as it was written, and is written without `null`, which a merge
patch would take for a removal. A status is kept by merge patches alone: whatever object reads as one
status reads as another one once the patch between the two was merged into it, also if the object holds
other members, or does not hold all that would be written (`types_survive_wire`).
-/

namespace DynamicDns

open Json

/-! ### The configuration of an account -/

namespace Cloudflare

namespace RecordConfig

def written (record : RecordConfig) : Members :=
  Members.ofList [("name", .str record.name), ("proxied", .bool record.proxied)]

theorem decode?_encode (record : RecordConfig) : decode? record.encode = some record := by
  change (do return {
    name := ← Facet.text.read (slot record.written "name")
    proxied := ← Facet.flag.read (slot record.written "proxied") } : Option RecordConfig) = some record
  have hname : Facet.text.read (slot record.written "name") = some record.name :=
    slot_written Facet.lawful_text (by simp [written, Members.get?_ofList, Facet.text])
  have hproxied : Facet.flag.read (slot record.written "proxied") = some record.proxied :=
    slot_written Facet.lawful_flag (by simp [written, Members.get?_ofList, Facet.flag])
  rw [hname, hproxied]
  rfl

theorem solid_encode (record : RecordConfig) : record.encode.Solid := by
  apply solid_object
  simp only [List.forall_mem_cons]
  exact ⟨.str _, .bool _, fun _ => nofun⟩

instance : LawfulCodec RecordConfig := ⟨decode?_encode, fun record => record.solid_encode.exact⟩

end RecordConfig

namespace ZoneConfig

def written (zone : ZoneConfig) : Members :=
  Members.ofList [("name", .str zone.name), ("records", ofItems zone.records)]

theorem decode?_encode (zone : ZoneConfig) : decode? zone.encode = some zone := by
  change (do return {
    name := ← Facet.text.read (slot zone.written "name")
    records := ← (Facet.items RecordConfig).read (slot zone.written "records") } : Option ZoneConfig) =
      some zone
  have hname : Facet.text.read (slot zone.written "name") = some zone.name :=
    slot_written Facet.lawful_text (by simp [written, Members.get?_ofList, Facet.text])
  have hrecords : (Facet.items RecordConfig).read (slot zone.written "records") = some zone.records :=
    slot_written Facet.lawful_items (by simp [written, Members.get?_ofList, Facet.items])
  rw [hname, hrecords]
  rfl

theorem solid_encode (zone : ZoneConfig) : zone.encode.Solid := by
  apply solid_object
  simp only [List.forall_mem_cons]
  exact ⟨.str _, solid_ofItems RecordConfig.solid_encode zone.records, fun _ => nofun⟩

instance : LawfulCodec ZoneConfig := ⟨decode?_encode, fun zone => zone.solid_encode.exact⟩

end ZoneConfig

namespace Config

def settings (config : Config) : Members := Members.ofList [("zones", ofItems config.zones)]

theorem decodeSettings?_settings (config : Config) :
    decodeSettings? (.obj config.settings) = some config := by
  change (do return { zones := ← (Facet.items ZoneConfig).read (slot config.settings "zones") } :
    Option Config) = some config
  have hzones : (Facet.items ZoneConfig).read (slot config.settings "zones") = some config.zones :=
    slot_written Facet.lawful_items (by simp [settings, Members.get?_ofList, Facet.items])
  rw [hzones]
  rfl

def written (config : Config) : Members := Members.ofList [("cloudflare", .obj config.settings)]

theorem decode?_encode (config : Config) : decode? config.encode = some config := by
  change (slot config.written "cloudflare").required decodeSettings? = some config
  have hsettings : config.written.get? "cloudflare" = some (.obj config.settings) := by
    simp [written, Members.get?_ofList]
  rw [slot_required, hsettings]
  exact config.decodeSettings?_settings

theorem solid_encode (config : Config) : config.encode.Solid := by
  have hzones : (ofItems config.zones).Solid := solid_ofItems ZoneConfig.solid_encode config.zones
  apply solid_object
  exact List.forall_mem_singleton.2 (solid_object (List.forall_mem_singleton.2 hzones))

end Config

end Cloudflare

/-! ### All types that are kept -/

/-- Each value of a type reads back as it was written, and no `null` is written. -/
structure Durable (α : Type) [Codec α] : Prop where
  decode?_encode : ∀ a : α, Codec.decode? (Codec.encode a) = some a
  not_occurs_null : ∀ a : α, ¬Occurs .null (Codec.encode a)

/-- Whatever object reads as one value reads as another once the patch between the two was merged into
it. -/
structure Mergeable (α : Type) [Codec α] : Prop extends Durable α where
  decode?_merge : ∀ (members : Members) (before after : α),
    Codec.decode? (.obj members) = some before →
      Codec.decode? ((Json.obj members).applyPatch
        ((Codec.encode before).diff (Codec.encode after))) = some after

theorem Durable.of_solid {α : Type} [Codec α]
    (reads : ∀ a : α, Codec.decode? (Codec.encode a) = some a)
    (solid : ∀ a : α, (Codec.encode a).Solid) : Durable α :=
  ⟨reads, fun a => (solid a).not_occurs_null⟩

theorem LawfulStatus.mergeable {τ : Type} [Status τ] [LawfulStatus τ]
    (solid : ∀ a : τ, (Codec.encode a).Solid) : Mergeable τ :=
  ⟨.of_solid decode?_encode solid, decode?_merge⟩

/-- All that is kept reads back as it was written, and is written without `null`, and statuses can be
kept by merge patches. -/
theorem types_survive_wire :
    Durable ProviderSpec ∧ Mergeable ProviderStatus ∧ Durable NotifierSpec ∧
      Mergeable NotifierStatus ∧ Durable Condition ∧ Durable Reference ∧
        Durable Cloudflare.Config :=
  ⟨.of_solid ProviderSpec.decode?_encode ProviderSpec.solid_encode,
    LawfulStatus.mergeable ProviderStatus.solid_encode,
    .of_solid NotifierSpec.decode?_encode NotifierSpec.solid_encode,
    LawfulStatus.mergeable NotifierStatus.solid_encode,
    .of_solid Condition.decode?_encode Condition.solid_encode,
    .of_solid Reference.decode?_encode Reference.solid_encode,
    .of_solid Cloudflare.Config.decode?_encode Cloudflare.Config.solid_encode⟩

end DynamicDns
