import DynamicDns.Proofs.Cloudflare.Service

/-!
# What the client does to an account

Looking up a zone and listing its records leave an account as it is, and find all of its A records
page by page. So what the client reads is the content of one configured record, and when setting the
address succeeds every configured record holds it.
-/

namespace DynamicDns.Cloudflare.Service

variable {σ α : Type} {service : Service σ} {client : Client} {s s' : σ}

structure Same (service : Service σ) (s s' : σ) : Prop where
  account : service.account s' = service.account s
  pages : service.pages s' = service.pages s

theorem Same.refl (s : σ) : service.Same s s := ⟨rfl, rfl⟩

theorem Same.trans {s'' : σ} (first : service.Same s s') (second : service.Same s' s'') :
    service.Same s s'' :=
  ⟨second.account.trans first.account, second.pages.trans first.pages⟩

/-! ### Looking up and listing -/

theorem keeps_zoneId (hbase : client.baseUrl = publicUrl) (name : String) :
    service.Keeps (service.Same s) (fun id s' => service.Same s s' ∧
      ∃ zone ∈ (service.account s).zones, zone.name = name ∧ zone.id = id)
      (client.zoneId name) s := by
  have hrequest : service.Keeps (service.Same s)
      (fun value s' => service.Same s s' ∧ ∀ zone ∈ value.1, zone ∈ (service.account s).zones)
      (client.request .zones .get "/zones" [("name", name)] none) s := by
    refine keeps_request hbase (.zones name) (.refl s) fun request response s' asks answer => ?_
    obtain ⟨haccount, hpages⟩ := service.reads answer asks.method
    refine ⟨⟨haccount, hpages⟩, fun received value hreceived carries => ?_⟩
    subst hreceived
    exact ⟨⟨haccount, hpages⟩, service.zones answer asks carries⟩
  refine Keeps.bind hrequest fun value s' h => ?_
  obtain ⟨found, total⟩ := value
  obtain ⟨same, hfound⟩ := h
  cases hfind : found.find? fun zone => zone.name == name with
  | none =>
    simp only [hfind]
    exact keeps_throw _ same
  | some zone =>
    simp only [hfind]
    refine keeps_pure ⟨same, zone, hfound zone (List.mem_of_find?_eq_some hfind), ?_, rfl⟩
    simpa using List.find?_some hfind

theorem type_of_mem_pages {zone : Zone} (hzone : zone ∈ (service.account s).zones)
    {record : DnsRecord} (h : record ∈ (service.pages s zone.id).flatten) :
    record.type = managedType := by
  obtain ⟨hosted, hhosted, rfl⟩ := List.mem_map.1 ((service.paged s zone hzone).2.mem_iff.1 h)
  exact (Account.mem_managed.1 hhosted).2.2

theorem keeps_page (hbase : client.baseUrl = publicUrl) {zone : Zone}
    (hzone : zone ∈ (service.account s).zones) {page : Nat}
    (hpage : page = 0 ∨ page < (service.pages s zone.id).length) :
    service.Keeps (service.Same s) (fun value s' => service.Same s s' ∧
      value.1 = (service.pages s zone.id).getD page [] ∧
        (value.1 ≠ [] → value.2.map UInt32.toNat = some (service.pages s zone.id).length))
      (client.request .records .get ("/zones/" ++ zone.id ++ "/dns_records")
        [("type", managedType), ("page", toString (page + 1)), ("per_page", toString pageSize)]
        none) s := by
  refine keeps_request hbase (.records zone.id (page + 1)) (.refl s)
    fun request response s' asks answer => ?_
  obtain ⟨haccount, hpages⟩ := service.reads answer asks.method
  refine ⟨⟨haccount, hpages⟩, fun received value hreceived carries => ?_⟩
  subst hreceived
  exact ⟨⟨haccount, hpages⟩, service.records answer zone hzone asks hpage carries⟩

/-- A page that is not there is empty, and no other is. -/
theorem drop_pages {pages : List (List DnsRecord)} (full : [] ∉ pages) (page : Nat) :
    pages.getD page [] = [] ∧ pages.length ≤ page ∨
      pages.getD page [] ≠ [] ∧ page < pages.length ∧
        pages.drop page = pages.getD page [] :: pages.drop (page + 1) := by
  by_cases hpage : page < pages.length
  · have hget : pages.getD page [] = pages[page] := by
      rw [List.getD_eq_getElem?_getD, List.getElem?_eq_getElem hpage, Option.getD_some]
    rw [hget]
    refine .inr ⟨fun hempty => full ?_, hpage, List.drop_eq_getElem_cons hpage⟩
    rw [← hempty]
    exact List.getElem_mem hpage
  · have hpage := Nat.le_of_not_lt hpage
    rw [List.getD_eq_getElem?_getD, List.getElem?_eq_none hpage]
    exact .inl ⟨rfl, hpage⟩

theorem filter_page {zone : Zone} (hzone : zone ∈ (service.account s).zones) (page : Nat) :
    ((service.pages s zone.id).getD page []).filter (fun record => record.type == managedType) =
      (service.pages s zone.id).getD page [] := by
  rw [List.filter_eq_self]
  intro record hrecord
  rcases drop_pages (service.paged s zone hzone).1 page with ⟨hempty, -⟩ | ⟨-, -, hdrop⟩
  · rw [hempty] at hrecord
    cases hrecord
  · have hpage : (service.pages s zone.id).getD page [] ∈ service.pages s zone.id := by
      refine List.mem_of_mem_drop (i := page) ?_
      rw [hdrop]
      exact List.mem_cons_self
    exact beq_iff_eq.2 (type_of_mem_pages hzone (List.mem_flatten.2 ⟨_, hpage, hrecord⟩))

theorem keeps_recordsFrom (hbase : client.baseUrl = publicUrl) {zone : Zone}
    (hzone : zone ∈ (service.account s).zones) {page : Nat}
    (hpage : page = 0 ∨ page < (service.pages s zone.id).length) :
    service.Keeps (service.Same s) (fun records s' => service.Same s s' ∧
      records = ((service.pages s zone.id).drop page).flatten)
      (client.recordsFrom zone.id (page + 1)) s := by
  induction hleft : (service.pages s zone.id).length - page using Nat.strongRecOn
    generalizing page s with
  | ind left ih =>
    rw [Client.recordsFrom]
    refine Keeps.bind (keeps_page hbase hzone hpage) fun value s' h => ?_
    obtain ⟨batch, total⟩ := value
    obtain ⟨same, hbatch, htotal⟩ := h
    dsimp only at hbatch htotal ⊢
    have hmanaged : (batch.filter fun record => record.type == managedType) = batch := by
      rw [hbatch]
      exact filter_page hzone page
    rw [hmanaged]
    rcases drop_pages (service.paged s zone hzone).1 page with
      ⟨hempty, hlength⟩ | ⟨hfull, hlength, hdrop⟩
    · rw [hempty] at hbatch
      rw [dif_pos (.inl (List.isEmpty_iff.2 hbatch))]
      refine keeps_pure ⟨same, ?_⟩
      rw [hbatch, List.drop_eq_nil_of_le hlength, List.flatten_nil]
    · rw [← hbatch] at hfull hdrop
      obtain ⟨pages, rfl, hpages⟩ := Option.map_eq_some_iff.1 (htotal hfull)
      rw [Option.getD_some, hpages, hdrop, List.flatten_cons]
      by_cases hlast : (service.pages s zone.id).length ≤ page + 1
      · rw [dif_pos (.inr hlast)]
        refine keeps_pure ⟨same, ?_⟩
        rw [List.drop_eq_nil_of_le hlast, List.flatten_nil, List.append_nil]
      · rw [dif_neg (not_or.2 ⟨fun h => hfull (List.isEmpty_iff.1 h), hlast⟩)]
        have hnext := Nat.lt_of_not_le hlast
        have hrest : service.Keeps (service.Same s) (fun records s'' => service.Same s s'' ∧
            records = ((service.pages s zone.id).drop (page + 1)).flatten)
            (client.recordsFrom zone.id (page + 1 + 1)) s' := by
          rw [← same.account] at hzone
          rw [← same.pages] at hnext hleft ⊢
          refine (ih _ (by omega) hzone (.inr hnext) rfl).mono (fun _ => same.trans) ?_
          exact fun _ _ h => ⟨same.trans h.1, h.2⟩
        refine Keeps.bind hrest fun records s'' h => ?_
        obtain ⟨same', hrecords⟩ := h
        exact keeps_pure ⟨same', congrArg (batch ++ ·) hrecords⟩

/-- The zone with a name, and its A records as they are listed. -/
theorem keeps_listing (hbase : client.baseUrl = publicUrl) {name : String} {gets : α → σ → Prop}
    {fails : σ → Prop} (hfails : ∀ s', service.Same s s' → fails s')
    {f : String → List DnsRecord → Exchanging α}
    (h : ∀ zone ∈ (service.account s).zones, zone.name = name → ∀ s', service.Same s s' →
      service.Keeps fails gets (f zone.id (service.pages s zone.id).flatten) s') :
    service.Keeps fails gets
      (client.zoneId name >>= fun id => client.records id >>= fun records => f id records) s := by
  refine Keeps.bind ((keeps_zoneId hbase name).mono hfails fun _ _ h => h) fun id s' h' => ?_
  obtain ⟨same, zone, hzone, hname, rfl⟩ := h'
  have hrecords : service.Keeps (service.Same s') (fun records s'' => service.Same s' s'' ∧
      records = ((service.pages s' zone.id).drop 0).flatten) (client.records zone.id) s' :=
    keeps_recordsFrom hbase (same.account ▸ hzone) (.inl rfl)
  refine Keeps.bind (hrecords.mono (fun _ same' => hfails _ (same.trans same')) fun _ _ h => h)
    fun records s'' h' => ?_
  obtain ⟨same', rfl⟩ := h'
  rw [List.drop_zero, same.pages]
  exact h zone hzone hname s'' (same.trans same')

/-! ### Reading the address -/

/-- An address is the content of the first listed record with a configured name, in a zone with the
configured name. -/
def ReadsFrom (service : Service σ) (s : σ) (wanted : ZoneConfig) (ip : String) : Prop :=
  ∃ zone ∈ (service.account s).zones, zone.name = wanted.name ∧ ∃ record,
    ((service.pages s zone.id).flatten.find? fun record => wanted.wants record.name) = some record ∧
      record.content = ip

theorem Same.readsFrom (same : service.Same s s') {wanted : ZoneConfig} {ip : String}
    (h : service.ReadsFrom s' wanted ip) : service.ReadsFrom s wanted ip := by
  obtain ⟨zone, hzone, hname, hread⟩ := h
  rw [same.account] at hzone
  rw [same.pages] at hread
  exact ⟨zone, hzone, hname, hread⟩

theorem keeps_ipFromZone (hbase : client.baseUrl = publicUrl) (wanted : ZoneConfig) :
    service.Keeps (service.Same s) (fun ip s' => service.Same s s' ∧ service.ReadsFrom s wanted ip)
      (client.ipFromZone wanted) s := by
  refine keeps_listing hbase (fun _ same => same) fun zone hzone hname s' same => ?_
  cases hfind : (service.pages s zone.id).flatten.find? fun record =>
      wanted.records.any fun wanted => wanted.name == record.name with
  | none => exact keeps_throw _ same
  | some record => exact keeps_pure ⟨same, zone, hzone, hname, record, hfind, rfl⟩

theorem keeps_firstIp (hbase : client.baseUrl = publicUrl) (zones : List ZoneConfig) :
    service.Keeps (service.Same s) (fun ip s' => service.Same s s' ∧
      ∃ wanted ∈ zones, service.ReadsFrom s wanted ip) (client.firstIp zones) s := by
  induction zones generalizing s with
  | nil => exact keeps_throw _ (.refl s)
  | cons wanted rest ih =>
    refine keeps_tryCatch ((keeps_ipFromZone hbase wanted).mono (fun _ same => same)
      fun ip _ h => ⟨h.1, wanted, List.mem_cons_self, h.2⟩) fun e s' same => ?_
    refine ih.mono (fun _ => same.trans) fun ip s'' h => ?_
    obtain ⟨same', other, hother, hread⟩ := h
    exact ⟨same.trans same', other, List.mem_cons_of_mem _ hother, same.readsFrom hread⟩

theorem keeps_getIp (hbase : client.baseUrl = publicUrl) :
    service.Keeps (service.Same s) (fun ip s' => service.Same s s' ∧
      ∃ wanted ∈ client.config.zones, service.ReadsFrom s wanted ip) client.getIp s :=
  keeps_firstIp hbase client.config.zones

/-! ### Setting the address -/

theorem keeps_updateRecord (hbase : client.baseUrl = publicUrl) {zone : Zone}
    (hzone : zone ∈ (service.account s).zones) {record : HostedRecord}
    (hrecord : record ∈ (service.account s).managed zone.id) (ip : String) (proxied : Bool) :
    service.Keeps (fun _ => True) (fun _ s' => service.account s' =
      (service.account s).change zone.id record.id ip proxied)
      (client.updateRecord zone.id record.id ip proxied) s := by
  have hrequest : service.Keeps (fun _ => True) (fun _ s' => service.account s' =
      (service.account s).change zone.id record.id ip proxied)
      (client.request .anything .patch ("/zones/" ++ zone.id ++ "/dns_records/" ++ record.id) []
        (some (Json.object [("content", .str ip), ("proxied", .bool proxied)]))) s := by
    refine keeps_request hbase (.change zone.id record.id ip proxied) trivial
      fun request response s' asks answer => ⟨trivial, fun received value hreceived carries => ?_⟩
    subst hreceived
    exact service.changes answer zone hzone record hrecord asks carries
  exact Keeps.bind hrequest fun value s' h => keeps_pure h

/-- Where each turn of a loop leads toward the address and gets something done that stays done, the
loop gets all of it done. -/
theorem keeps_forM {β : Type} {ip : String} (done : β → Account → Prop) {start : Account}
    {f : β → Exchanging Unit}
    (stays : ∀ x a b, Account.Toward ip a b → done x a → done x b) (xs : List β)
    (step : ∀ x ∈ xs, ∀ s, start.Toward ip (service.account s) →
      service.Keeps (fun _ => True) (fun _ s' =>
        (service.account s).Toward ip (service.account s') ∧ done x (service.account s')) (f x) s)
    (hstart : start.Toward ip (service.account s)) :
    service.Keeps (fun _ => True) (fun _ s' =>
      (service.account s).Toward ip (service.account s') ∧ ∀ x ∈ xs, done x (service.account s'))
      (xs.forM f) s := by
  induction xs generalizing s with
  | nil => exact keeps_pure ⟨.refl ip _, fun x h => by cases h⟩
  | cons x rest ih =>
    refine Keeps.bind (step x List.mem_cons_self s hstart) fun _ s' h => ?_
    obtain ⟨toward, hdone⟩ := h
    have hrest := ih (fun y hy => step y (List.mem_cons_of_mem _ hy)) (hstart.trans toward)
    refine hrest.mono (fun _ => id) fun _ s'' h => ⟨toward.trans h.1, fun y hy => ?_⟩
    rcases List.mem_cons.1 hy with rfl | hy
    · exact stays y _ _ h.1 hdone
    · exact h.2 y hy

/-- Setting the address of listed records points each of them at it. -/
theorem keeps_updateRecords (hbase : client.baseUrl = publicUrl) {zone : Zone} {start : Account}
    (hzone : zone ∈ start.zones) (ip : String) (proxied : Bool) {listed : List DnsRecord}
    (hlisted : ∀ record ∈ listed, ∃ hosted ∈ start.managed zone.id, hosted.toDnsRecord = record)
    (hstart : start.Toward ip (service.account s)) :
    service.Keeps (fun _ => True) (fun _ s' =>
      (service.account s).Toward ip (service.account s') ∧ ∀ record ∈ listed,
        (service.account s').Points zone.id record.id ip)
      (listed.forM fun record => client.updateRecord zone.id record.id ip proxied) s := by
  refine keeps_forM (fun record account => account.Points zone.id record.id ip)
    (fun record a b toward => toward.points) listed (fun record hrecord s' toward => ?_) hstart
  have hzone' : zone ∈ (service.account s').zones := by
    rw [toward.zones]
    exact hzone
  obtain ⟨old, hold, rfl⟩ := hlisted record hrecord
  obtain ⟨new, hnew, follows⟩ := toward.managed_forth hold
  rw [← follows.id]
  refine (keeps_updateRecord hbase hzone' hnew ip proxied).mono (fun _ => id) ?_
  intro _ s'' h
  rw [h]
  exact ⟨Account.toward_change _ _ _ _ _, Account.points_change _ _ _ _ _⟩

theorem keeps_setZoneIp (hbase : client.baseUrl = publicUrl) (proper : (service.account s).Proper)
    (ip : String) (wanted : ZoneConfig) :
    service.Keeps (fun _ => True) (fun _ s' => (service.account s).Toward ip (service.account s') ∧
      (service.account s').ZoneInSync ip wanted) (client.setZoneIp ip wanted) s := by
  refine keeps_listing hbase (fun _ _ => trivial) fun zone hzone hname s' same => ?_
  let chosen (record : RecordConfig) : List DnsRecord :=
    (service.pages s zone.id).flatten.filter fun listed => listed.name == record.name
  have hsets : service.Keeps (fun _ => True) (fun _ s'' =>
      (service.account s').Toward ip (service.account s'') ∧ ∀ record ∈ wanted.records,
        ∀ listed ∈ chosen record, (service.account s'').Points zone.id listed.id ip)
      (wanted.records.forM fun record => (chosen record).forM fun listed =>
        client.updateRecord zone.id listed.id ip record.proxied) s' := by
    refine keeps_forM (fun record account => ∀ listed ∈ chosen record,
      account.Points zone.id listed.id ip) (fun record a b toward h listed hlisted => ?_) _
      (fun record _ s₁ toward => ?_) (.refl ip _)
    · exact toward.points (h listed hlisted)
    · refine keeps_updateRecords hbase (same.account ▸ hzone) ip record.proxied ?_ toward
      intro listed hlisted
      rw [same.account]
      exact List.mem_map.1 ((service.paged s zone hzone).2.mem_iff.1 (List.mem_filter.1 hlisted).1)
  refine hsets.mono (fun _ => id) fun _ s'' h => ?_
  obtain ⟨toward, hpoints⟩ := h
  rw [same.account] at toward
  refine ⟨toward, Account.zoneInSync_of_points proper toward hzone hname fun old hold hwants => ?_⟩
  obtain ⟨record, hrecord, hrecordName⟩ := List.any_eq_true.1 hwants
  have hlisted : old.toDnsRecord ∈ (service.pages s zone.id).flatten :=
    (service.paged s zone hzone).2.mem_iff.2 (List.mem_map_of_mem hold)
  refine hpoints record hrecord old.toDnsRecord (List.mem_filter.2 ⟨hlisted, ?_⟩)
  rw [beq_iff_eq] at hrecordName ⊢
  exact hrecordName.symm

theorem keeps_setIp (hbase : client.baseUrl = publicUrl) (proper : (service.account s).Proper)
    (ip : String) :
    service.Keeps (fun _ => True) (fun _ s' => (service.account s').InSync client.config ip)
      (client.setIp ip) s := by
  have hsets : service.Keeps (fun _ => True) (fun _ s' =>
      (service.account s).Toward ip (service.account s') ∧ ∀ wanted ∈ client.config.zones,
        (service.account s').ZoneInSync ip wanted)
      (client.config.zones.forM fun wanted => client.setZoneIp ip wanted) s := by
    refine keeps_forM (fun wanted account => account.ZoneInSync ip wanted)
      (fun wanted a b toward => toward.zoneInSync) _ (fun wanted _ s' toward => ?_) (.refl ip _)
    have proper' : (service.account s').Proper := by
      rw [Account.Proper, toward.zones]
      exact proper
    exact keeps_setZoneIp hbase proper' ip wanted
  exact hsets.mono (fun _ => id) fun _ s' h => h.2

end DynamicDns.Cloudflare.Service
