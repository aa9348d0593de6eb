import DynamicDns.Cloudflare.Client
import Mathlib.Data.List.Pairwise

/-!
# Accounts

An account is zones and the records in them. It is in sync with an address for a configuration if
every A record with a configured name, in a zone with a configured name, holds that address.
Changing records to the address leads toward it: whatever is in sync stays so.
-/

namespace DynamicDns.Cloudflare

structure HostedRecord extends DnsRecord where
  zone : String
  proxied : Bool
  deriving DecidableEq

/-- Zones, and records that say by identifier which zone they are in. -/
structure Account where
  zones : List Zone
  records : List HostedRecord
  deriving DecidableEq

def ZoneConfig.wants (wanted : ZoneConfig) (name : String) : Bool :=
  wanted.records.any (·.name == name)

namespace Account

/-- Zones are told apart by their names. -/
def Proper (account : Account) : Prop := account.zones.Pairwise fun a b => a.name ≠ b.name

def managed (account : Account) (zone : String) : List HostedRecord :=
  account.records.filter fun record => record.zone == zone && record.type == managedType

def ZoneInSync (account : Account) (ip : String) (wanted : ZoneConfig) : Prop :=
  ∀ zone ∈ account.zones, zone.name = wanted.name → ∀ record ∈ account.managed zone.id,
    wanted.wants record.name = true → record.content = ip

/-- Every configured A record holds an address. -/
def InSync (account : Account) (config : Config) (ip : String) : Prop :=
  ∀ wanted ∈ config.zones, account.ZoneInSync ip wanted

def change (account : Account) (zone record content : String) (proxied : Bool) : Account :=
  { account with records := account.records.map fun old =>
      if old.zone = zone ∧ old.id = record then { old with content, proxied } else old }

/-! ### Toward an address -/

structure Follows (ip : String) (old new : HostedRecord) : Prop where
  zone : new.zone = old.zone
  id : new.id = old.id
  type : new.type = old.type
  name : new.name = old.name
  content : new.content = old.content ∨ new.content = ip

/-- Records keep their content or have come to hold the address, and none has come or gone. -/
structure Toward (ip : String) (account account' : Account) : Prop where
  zones : account'.zones = account.zones
  back : ∀ new ∈ account'.records, ∃ old ∈ account.records, Follows ip old new
  forth : ∀ old ∈ account.records, ∃ new ∈ account'.records, Follows ip old new

variable {ip : String} {a b c : Account}

theorem Follows.refl (ip : String) (record : HostedRecord) : Follows ip record record :=
  ⟨rfl, rfl, rfl, rfl, .inl rfl⟩

theorem Follows.trans {ip : String} {old mid new : HostedRecord} (first : Follows ip old mid)
    (second : Follows ip mid new) : Follows ip old new := by
  refine ⟨second.zone.trans first.zone, second.id.trans first.id, second.type.trans first.type,
    second.name.trans first.name, ?_⟩
  rcases second.content with hcontent | hcontent
  · rw [hcontent]
    exact first.content
  · exact .inr hcontent

theorem Toward.refl (ip : String) (account : Account) : account.Toward ip account :=
  ⟨rfl, fun record h => ⟨record, h, .refl ip record⟩, fun record h => ⟨record, h, .refl ip record⟩⟩

theorem Toward.trans (first : Toward ip a b) (second : Toward ip b c) : Toward ip a c := by
  refine ⟨second.zones.trans first.zones, fun new hnew => ?_, fun old hold => ?_⟩
  · obtain ⟨mid, hmid, hsecond⟩ := second.back new hnew
    obtain ⟨old, hold, hfirst⟩ := first.back mid hmid
    exact ⟨old, hold, hfirst.trans hsecond⟩
  · obtain ⟨mid, hmid, hfirst⟩ := first.forth old hold
    obtain ⟨new, hnew, hsecond⟩ := second.forth mid hmid
    exact ⟨new, hnew, hfirst.trans hsecond⟩

theorem toward_change (account : Account) (zone record ip : String) (proxied : Bool) :
    account.Toward ip (account.change zone record ip proxied) := by
  have hfollows (old : HostedRecord) : Follows ip old
      (if old.zone = zone ∧ old.id = record then { old with content := ip, proxied } else old) := by
    split
    · exact ⟨rfl, rfl, rfl, rfl, .inr rfl⟩
    · exact .refl ip old
  refine ⟨rfl, fun new hnew => ?_, fun old hold => ?_⟩
  · obtain ⟨old, hold, rfl⟩ := List.mem_map.1 hnew
    exact ⟨old, hold, hfollows old⟩
  · exact ⟨_, List.mem_map_of_mem hold, hfollows old⟩

theorem mem_managed {account : Account} {zone : String} {record : HostedRecord} :
    record ∈ account.managed zone ↔
      record ∈ account.records ∧ record.zone = zone ∧ record.type = managedType := by
  rw [managed, List.mem_filter, Bool.and_eq_true, beq_iff_eq, beq_iff_eq]

/-- The A records of a zone come from its A records. -/
theorem Toward.managed_back (toward : Toward ip a b) {zone : String} {new : HostedRecord}
    (h : new ∈ b.managed zone) : ∃ old ∈ a.managed zone, Follows ip old new := by
  obtain ⟨hnew, hzone, htype⟩ := mem_managed.1 h
  obtain ⟨old, hold, follows⟩ := toward.back new hnew
  exact ⟨old, mem_managed.2 ⟨hold, follows.zone ▸ hzone, follows.type ▸ htype⟩, follows⟩

theorem Toward.managed_forth (toward : Toward ip a b) {zone : String} {old : HostedRecord}
    (h : old ∈ a.managed zone) : ∃ new ∈ b.managed zone, Follows ip old new := by
  obtain ⟨hold, hzone, htype⟩ := mem_managed.1 h
  obtain ⟨new, hnew, follows⟩ := toward.forth old hold
  exact ⟨new, mem_managed.2 ⟨hnew, follows.zone.trans hzone, follows.type.trans htype⟩, follows⟩

theorem Toward.zoneInSync (toward : Toward ip a b) {wanted : ZoneConfig}
    (h : a.ZoneInSync ip wanted) : b.ZoneInSync ip wanted := by
  intro zone hzone hname new hnew hwants
  obtain ⟨old, hold, follows⟩ := toward.managed_back hnew
  rcases follows.content with hcontent | hcontent
  · rw [hcontent]
    exact h zone (toward.zones ▸ hzone) hname old hold (follows.name ▸ hwants)
  · exact hcontent

/-! ### Record by record -/

def Points (account : Account) (zone record ip : String) : Prop :=
  ∀ hosted ∈ account.managed zone, hosted.id = record → hosted.content = ip

theorem points_change (account : Account) (zone record ip : String) (proxied : Bool) :
    (account.change zone record ip proxied).Points zone record ip := by
  intro new hnew hid
  obtain ⟨hnew, hzone, -⟩ := mem_managed.1 hnew
  obtain ⟨old, -, rfl⟩ := List.mem_map.1 hnew
  by_cases h : old.zone = zone ∧ old.id = record
  · rw [if_pos h]
  · rw [if_neg h] at hzone hid
    exact absurd ⟨hzone, hid⟩ h

theorem Toward.points (toward : Toward ip a b) {zone record : String}
    (h : a.Points zone record ip) : b.Points zone record ip := by
  intro new hnew hid
  obtain ⟨old, hold, follows⟩ := toward.managed_back hnew
  rcases follows.content with hcontent | hcontent
  · rw [hcontent]
    exact h old hold (follows.id.symm.trans hid)
  · exact hcontent

theorem Proper.eq_of_name_eq {account : Account} (proper : account.Proper) {a b : Zone}
    (ha : a ∈ account.zones) (hb : b ∈ account.zones) (h : a.name = b.name) : a = b := by
  have hsymm : Std.Symm fun a b : Zone => a.name ≠ b.name := ⟨fun _ _ h => h.symm⟩
  by_contra hne
  exact proper.forall ha hb hne h

theorem zoneInSync_of_points (proper : a.Proper) (toward : Toward ip a b) {wanted : ZoneConfig}
    {zone : Zone} (hzone : zone ∈ a.zones) (hname : zone.name = wanted.name)
    (points : ∀ old ∈ a.managed zone.id, wanted.wants old.name = true → b.Points zone.id old.id ip) :
    b.ZoneInSync ip wanted := by
  intro other hother hname' new hnew hwants
  rw [toward.zones] at hother
  obtain rfl := proper.eq_of_name_eq hother hzone (hname'.trans hname.symm)
  obtain ⟨old, hold, follows⟩ := toward.managed_back hnew
  exact points old hold (follows.name ▸ hwants) new hnew follows.id

end Account

end DynamicDns.Cloudflare
