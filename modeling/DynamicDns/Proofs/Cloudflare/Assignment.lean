import DynamicDns.Proofs.Cloudflare.Account

/-!
# What a configuration assigns

The entries of a configuration that match an A record are those of the zones with the name of its
zone that have its name. The last of them says how the record is to be; a record without any is left
alone. Records are assigned zone by zone, entry by entry, and record by record.
-/

namespace DynamicDns.Cloudflare.Account

def entries (account : Account) (zones : List ZoneConfig) (record : HostedRecord) :
    List RecordConfig :=
  if record.type = managedType then
    (zones.filter fun wanted =>
      account.zones.any fun zone => zone.id == record.zone && zone.name == wanted.name).flatMap
        fun wanted => wanted.records.filter (·.name == record.name)
  else []

/-- A record as the last entry that matches it says. -/
def assigned (ip : String) (entries : List RecordConfig) (record : HostedRecord) : HostedRecord :=
  match entries.getLast? with
  | some entry => { record with content := ip, proxied := entry.proxied }
  | none => record

def assign (account : Account) (ip : String) (zones : List ZoneConfig) : Account :=
  { account with
    records := account.records.map fun record =>
      assigned ip (account.entries zones record) record }

variable {account : Account} {ip : String} {zones : List ZoneConfig} {record : HostedRecord}

/-! ### Entries -/

theorem mem_entries {entry : RecordConfig} :
    entry ∈ account.entries zones record ↔ record.type = managedType ∧ ∃ wanted ∈ zones,
      (∃ zone ∈ account.zones, zone.id = record.zone ∧ zone.name = wanted.name) ∧
        entry ∈ wanted.records ∧ entry.name = record.name := by
  rw [entries]
  split
  · rename_i htype
    simp only [List.mem_flatMap, List.mem_filter, List.any_eq_true, Bool.and_eq_true, beq_iff_eq,
      htype, true_and, and_assoc]
  · rename_i htype
    simp [htype]

/-- A record is matched exactly if a configured zone that it is in wants it. -/
theorem entries_ne_nil :
    account.entries zones record ≠ [] ↔ record.type = managedType ∧ ∃ wanted ∈ zones,
      (∃ zone ∈ account.zones, zone.id = record.zone ∧ zone.name = wanted.name) ∧
        wanted.wants record.name = true := by
  rw [← List.isEmpty_eq_false_iff, List.isEmpty_eq_false_iff_exists_mem]
  simp only [mem_entries, ZoneConfig.wants, List.any_eq_true, beq_iff_eq]
  constructor
  · rintro ⟨entry, htype, wanted, hwanted, hzone, hentry⟩
    exact ⟨htype, wanted, hwanted, hzone, entry, hentry⟩
  · rintro ⟨htype, wanted, hwanted, hzone, entry, hentry⟩
    exact ⟨entry, htype, wanted, hwanted, hzone, hentry⟩

theorem entries_append (account : Account) (zones more : List ZoneConfig) (record : HostedRecord) :
    account.entries (zones ++ more) record =
      account.entries zones record ++ account.entries more record := by
  simp only [entries]
  split <;> simp

/-- What matches a record does not depend on how it was assigned. -/
theorem entries_assigned (account : Account) (ip : String) (zones : List ZoneConfig)
    (known : List RecordConfig) (record : HostedRecord) :
    account.entries zones (assigned ip known record) = account.entries zones record := by
  rw [assigned]
  split <;> rfl

theorem assigned_append (ip : String) (known more : List RecordConfig) (record : HostedRecord) :
    assigned ip (known ++ more) record = assigned ip more (assigned ip known record) := by
  simp only [assigned, List.getLast?_append]
  cases more.getLast? with
  | some entry => cases known.getLast? <;> rfl
  | none => rfl

/-! ### Assigning step by step -/

theorem assign_nil (account : Account) (ip : String) : account.assign ip [] = account := by
  have hentries (record : HostedRecord) : account.entries [] record = [] := by simp [entries]
  simp [assign, hentries, assigned]

theorem assign_append (account : Account) (ip : String) (zones more : List ZoneConfig) :
    account.assign ip (zones ++ more) = (account.assign ip zones).assign ip more := by
  simp only [assign, List.map_map, entries_append, assigned_append]
  congr 2
  funext record
  simp only [Function.comp_apply]
  rw [← entries_assigned account ip more (account.entries zones record) record]
  rfl

theorem foldl_assign (account : Account) (ip : String) (zones : List ZoneConfig) :
    zones.foldl (fun account wanted => account.assign ip [wanted]) account =
      account.assign ip zones := by
  induction zones generalizing account with
  | nil => exact (assign_nil account ip).symm
  | cons wanted zones ih =>
    rw [List.foldl_cons, ih, ← assign_append]
    rfl

theorem assign_split (account : Account) (ip name : String) (known more : List RecordConfig) :
    account.assign ip [⟨name, known ++ more⟩] = account.assign ip [⟨name, known⟩, ⟨name, more⟩] := by
  simp only [assign]
  congr 2
  funext record
  congr 1
  simp only [entries]
  split
  · simp only [List.filter_cons, List.filter_nil]
    split <;> simp
  · rfl

theorem foldl_assign_entries (account : Account) (ip name : String) (known : List RecordConfig) :
    known.foldl (fun account entry => account.assign ip [⟨name, [entry]⟩]) account =
      account.assign ip [⟨name, known⟩] := by
  induction known generalizing account with
  | nil =>
    have hentries (record : HostedRecord) : account.entries [⟨name, []⟩] record = [] := by
      simp [entries]
    simp [assign, hentries, assigned]
  | cons entry known ih =>
    rw [List.foldl_cons, ih, ← assign_append, List.singleton_append, ← assign_split]
    rfl

theorem foldl_change (account : Account) (zone ip : String) (proxied : Bool)
    (listed : List DnsRecord) :
    listed.foldl (fun account record => account.change zone record.id ip proxied) account =
      { account with records := account.records.map fun record =>
          if record.zone = zone ∧ record.id ∈ listed.map (·.id) then
            { record with content := ip, proxied }
          else record } := by
  induction listed generalizing account with
  | nil => simp
  | cons first listed ih =>
    rw [List.foldl_cons, ih]
    simp only [change, List.map_map]
    congr 2
    funext record
    simp only [Function.comp_apply, List.map_cons, List.mem_cons]
    by_cases hzone : record.zone = zone <;> by_cases hid : record.id = first.id <;>
      by_cases hrest : record.id ∈ listed.map (·.id) <;> simp_all

theorem toward_assign (account : Account) (ip : String) (zones : List ZoneConfig) :
    account.Toward ip (account.assign ip zones) := by
  have hfollows (record : HostedRecord) :
      Follows ip record (assigned ip (account.entries zones record) record) := by
    rw [assigned]
    split
    · exact ⟨rfl, rfl, rfl, rfl, .inr rfl⟩
    · exact .refl ip record
  refine ⟨rfl, ?_, ?_⟩
  · intro new hnew
    obtain ⟨old, hold, rfl⟩ := List.mem_map.1 hnew
    exact ⟨old, hold, hfollows old⟩
  · intro old hold
    exact ⟨_, List.mem_map_of_mem hold, hfollows old⟩

theorem exists_entries_assign :
    (∃ record ∈ (account.assign ip zones).records,
      (account.assign ip zones).entries zones record ≠ []) ↔
        ∃ record ∈ account.records, account.entries zones record ≠ [] := by
  simp only [assign, List.mem_map]
  constructor
  · rintro ⟨_, ⟨record, hrecord, rfl⟩, hentries⟩
    refine ⟨record, hrecord, ?_⟩
    rw [← entries_assigned account ip zones (account.entries zones record) record]
    exact hentries
  · rintro ⟨record, hrecord, hentries⟩
    refine ⟨_, ⟨record, hrecord, rfl⟩, ?_⟩
    rw [← entries_assigned account ip zones (account.entries zones record) record] at hentries
    exact hentries

/-! ### One entry -/

def Identified (account : Account) : Prop := account.records.Pairwise fun a b => a.id ≠ b.id

theorem Identified.eq_of_id_eq (identified : account.Identified) {a b : HostedRecord}
    (ha : a ∈ account.records) (hb : b ∈ account.records) (h : a.id = b.id) : a = b := by
  have hsymm : Std.Symm fun a b : HostedRecord => a.id ≠ b.id := ⟨fun _ _ h => h.symm⟩
  by_contra hne
  exact identified.forall ha hb hne h

theorem Identified.assign (identified : account.Identified) (ip : String)
    (zones : List ZoneConfig) : (account.assign ip zones).Identified := by
  have hid (record : HostedRecord) :
      (assigned ip (account.entries zones record) record).id = record.id := by
    rw [assigned]
    split <;> rfl
  rw [Identified, Account.assign, List.pairwise_map]
  simp only [hid]
  exact identified

/-- An entry matches a record, or no entry does. -/
theorem entries_singleton (account : Account) (name : String) (entry : RecordConfig)
    (record : HostedRecord) :
    account.entries [⟨name, [entry]⟩] record =
      if entry ∈ account.entries [⟨name, [entry]⟩] record then [entry] else [] := by
  have hcases : account.entries [⟨name, [entry]⟩] record = [entry] ∨
      account.entries [⟨name, [entry]⟩] record = [] := by
    simp only [entries, List.filter_cons, List.filter_nil]
    by_cases hname : entry.name = record.name
    · split
      · split <;> simp [hname]
      · simp
    · split
      · split <;> simp [hname]
      · simp
  rcases hcases with h | h <;> simp [h]

/-- The records of a zone that are listed under a name are those that an entry for it matches. -/
theorem listed_iff_mem_entries {start : Account} (toward : start.Toward ip account)
    (proper : start.Proper) (identified : start.Identified) {zone : Zone}
    (hzone : zone ∈ start.zones) {listed : List DnsRecord}
    (hlisted : listed.Perm ((start.managed zone.id).map (·.toDnsRecord))) (entry : RecordConfig)
    (hrecord : record ∈ account.records) :
    (record.zone = zone.id ∧ record.id ∈ (listed.filter (·.name == entry.name)).map (·.id)) ↔
      entry ∈ account.entries [⟨zone.name, [entry]⟩] record := by
  obtain ⟨old, hold, follows⟩ := toward.back record hrecord
  simp only [mem_entries, List.mem_map, List.mem_filter, beq_iff_eq, List.mem_singleton,
    exists_eq_left, true_and, toward.zones]
  constructor
  · rintro ⟨hin, found, ⟨hfound, hname⟩, hid⟩
    obtain ⟨hosted, hhosted, rfl⟩ := List.mem_map.1 (hlisted.mem_iff.1 hfound)
    obtain ⟨hhosted, -, htype⟩ := mem_managed.1 hhosted
    obtain rfl := identified.eq_of_id_eq hhosted hold (hid.trans follows.id)
    exact ⟨follows.type.trans htype, ⟨zone, hzone, hin.symm, rfl⟩,
      hname.symm.trans follows.name.symm⟩
  · rintro ⟨htype, ⟨other, hother, hin, hname⟩, hentry⟩
    obtain rfl := proper.eq_of_name_eq hother hzone hname
    refine ⟨hin.symm, old.toDnsRecord, ⟨hlisted.mem_iff.2 (List.mem_map_of_mem ?_), ?_⟩,
      follows.id.symm⟩
    · exact mem_managed.2 ⟨hold, follows.zone.symm.trans hin.symm, follows.type.symm.trans htype⟩
    · exact follows.name.symm.trans hentry.symm

/-- Changing all records that were listed in a zone under a name assigns the entry for it. -/
theorem foldl_change_listed {start : Account} (toward : start.Toward ip account)
    (proper : start.Proper) (identified : start.Identified) {zone : Zone}
    (hzone : zone ∈ start.zones) {listed : List DnsRecord}
    (hlisted : listed.Perm ((start.managed zone.id).map (·.toDnsRecord))) (entry : RecordConfig) :
    (listed.filter (·.name == entry.name)).foldl
      (fun account record => account.change zone.id record.id ip entry.proxied) account =
        account.assign ip [⟨zone.name, [entry]⟩] := by
  rw [foldl_change, assign]
  congr 1
  refine List.map_congr_left fun record hrecord => ?_
  rw [entries_singleton]
  simp only [listed_iff_mem_entries toward proper identified hzone hlisted entry hrecord]
  split <;> rfl

end DynamicDns.Cloudflare.Account
