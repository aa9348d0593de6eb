import DynamicDns.Proofs.Cloudflare.Assignment
import DynamicDns.Proofs.Cloudflare.Pass
import DynamicDns.Proofs.Cloudflare.Untrusted

/-!
# Reading back what was set

If setting the address succeeds, an account is exactly as the configuration assigns it: each A record
that is matched is as its last entry says, and nothing else has changed. Where the service does not
fail, the address is then read back, unless there is no record that is matched.
-/

namespace DynamicDns.Cloudflare

namespace Service

variable {σ : Type} {service : Service σ} {client : Client} {s s' : σ} {ip : String}

/-! ### Setting the address -/

theorem keeps_foldl {β : Type} {step : Account → β → Account} (inv : Account → Prop)
    {f : β → Exchanging Unit} (xs : List β) (stays : ∀ account x, inv account → inv (step account x))
    (turn : ∀ x ∈ xs, ∀ s, inv (service.account s) → service.Keeps (fun _ => True)
      (fun _ s' => service.account s' = step (service.account s) x) (f x) s)
    (hstart : inv (service.account s)) :
    service.Keeps (fun _ => True)
      (fun _ s' => service.account s' = xs.foldl step (service.account s)) (xs.forM f) s := by
  induction xs generalizing s with
  | nil => exact keeps_pure rfl
  | cons x xs ih =>
    refine Keeps.bind (turn x List.mem_cons_self s hstart) fun _ s' h => ?_
    rw [List.foldl_cons, ← h]
    apply ih (fun y hy => turn y (List.mem_cons_of_mem x hy))
    rw [h]
    exact stays _ x hstart

theorem keeps_setListed (hbase : client.baseUrl = publicUrl) {zone : Zone} {start : Account}
    (proper : start.Proper) (identified : start.Identified) (hzone : zone ∈ start.zones)
    {listed : List DnsRecord}
    (hlisted : listed.Perm ((start.managed zone.id).map (·.toDnsRecord))) (entry : RecordConfig)
    (toward : start.Toward ip (service.account s)) :
    service.Keeps (fun _ => True)
      (fun _ s' => service.account s' = (service.account s).assign ip [⟨zone.name, [entry]⟩])
      ((listed.filter fun record => record.name == entry.name).forM fun record =>
        client.updateRecord zone.id record.id ip entry.proxied) s := by
  rw [← Account.foldl_change_listed toward proper identified hzone hlisted entry]
  refine keeps_foldl (start.Toward ip) _ ?_ ?_ toward
  · intro account record toward
    exact toward.trans (Account.toward_change _ _ _ _ _)
  · intro record hrecord s toward
    have hmanaged := hlisted.mem_iff.1 (List.mem_filter.1 hrecord).1
    obtain ⟨old, hold, rfl⟩ := List.mem_map.1 hmanaged
    obtain ⟨new, hnew, follows⟩ := toward.managed_forth hold
    rw [← follows.id]
    exact keeps_updateRecord hbase (toward.zones ▸ hzone) hnew ip entry.proxied

theorem keeps_assign_zone (hbase : client.baseUrl = publicUrl)
    (proper : (service.account s).Proper) (identified : (service.account s).Identified)
    (ip : String) (wanted : ZoneConfig) :
    service.Keeps (fun _ => True)
      (fun _ s' => service.account s' = (service.account s).assign ip [wanted])
      (client.setZoneIp ip wanted) s := by
  refine keeps_listing hbase (fun _ _ => trivial) fun zone hzone hname s' same => ?_
  have hwanted : wanted = ⟨zone.name, wanted.records⟩ := by rw [hname]
  rw [hwanted, ← Account.foldl_assign_entries, ← same.account]
  refine keeps_foldl ((service.account s).Toward ip) _ ?_ ?_ (same.account ▸ .refl ip _)
  · intro account entry toward
    exact toward.trans (Account.toward_assign _ _ _)
  · intro entry _ s'' toward
    exact keeps_setListed hbase proper identified hzone (service.paged s zone hzone).2 entry toward

theorem keeps_assign (hbase : client.baseUrl = publicUrl) (proper : (service.account s).Proper)
    (identified : (service.account s).Identified) (ip : String) :
    service.Keeps (fun _ => True)
      (fun _ s' => service.account s' = (service.account s).assign ip client.config.zones)
      (client.setIp ip) s := by
  rw [← Account.foldl_assign]
  refine keeps_foldl (fun account => account.Proper ∧ account.Identified) _ ?_ ?_
    ⟨proper, identified⟩
  · intro account wanted h
    exact ⟨h.1, h.2.assign ip [wanted]⟩
  · intro wanted _ s h
    exact keeps_assign_zone hbase h.1 h.2 ip wanted

/-! ### What a service tells -/

/-- A service that always answers, and with a success where it is asked for zones, or for a page of a
listing. The zones it finds under a name are complete. -/
structure Reliable (service : Service σ) : Prop where
  total : ∀ s request, ∃ response s', service.answers s request response s'
  finds : ∀ {s request response s' name}, service.answers s request response s' →
    (Operation.zones name).Asks request → ∃ received found total, response = some received ∧
      Carries .zones received (found, total) ∧
        ∀ zone ∈ (service.account s).zones, zone.name = name → zone ∈ found
  lists : ∀ {s request response s' page}, service.answers s request response s' →
    ∀ zone ∈ (service.account s).zones, (Operation.records zone.id (page + 1)).Asks request →
      page = 0 ∨ page < (service.pages s zone.id).length →
        ∃ received value, response = some received ∧ Carries .records received value

inductive Serves (service : Service σ) : σ → Log → σ → Prop
  | done {a} : Serves service a [] a
  | turn {a request response b log c} (answer : service.answers a request response b)
    (rest : Serves service b log c) : Serves service a ((request, response) :: log) c

theorem exists_serves {α : Type} {exchange : Http.Exchange α} {result : α}
    (yields : exchange.Yields service.answers s result s') (log : Log) :
    ∃ more, exchange.Yields Overhears log result (log ++ more) ∧ service.Serves s more s' := by
  induction exchange generalizing s log with
  | done value =>
    obtain ⟨rfl, rfl⟩ := yields
    exact ⟨[], ⟨rfl, by simp⟩, .done⟩
  | call request next ih =>
    obtain ⟨response, after, answer, yields⟩ := yields
    obtain ⟨more, hyields, serves⟩ := ih response yields (log ++ [(request, response)])
    refine ⟨(request, response) :: more, ⟨response, _, rfl, ?_⟩, .turn answer serves⟩
    simpa using hyields

/-- The service answered a turn when it was as it was at the start. -/
def Tells (service : Service σ) (s : σ) (turn : Turn) : Prop :=
  turn.operation.Asks turn.request ∧
    ∃ before after, service.Same s before ∧ service.answers before turn.request turn.response after

theorem Serves.tells {turns : List Turn} (serves : service.Serves s (turns.map Turn.heard) s')
    (asks : ∀ turn ∈ turns, turn.operation.Asks turn.request)
    (gets : ∀ turn ∈ turns, turn.operation.method = .get) :
    service.Same s s' ∧ ∀ turn ∈ turns, service.Tells s turn := by
  induction turns generalizing s with
  | nil =>
    cases serves
    exact ⟨.refl _, by simp⟩
  | cons turn turns ih =>
    obtain _ | ⟨answer, rest⟩ := serves
    have hasks := asks turn List.mem_cons_self
    have hmethod := hasks.method.trans (gets turn List.mem_cons_self)
    obtain ⟨haccount, hpages⟩ := service.reads answer hmethod
    have same : service.Same s _ := ⟨haccount, hpages⟩
    obtain ⟨same', told⟩ := ih rest (fun turn h => asks turn (List.mem_cons_of_mem _ h))
      (fun turn h => gets turn (List.mem_cons_of_mem _ h))
    refine ⟨same.trans same', ?_⟩
    intro other hother
    rcases List.mem_cons.1 hother with rfl | hother
    · exact ⟨hasks, _, _, .refl _, answer⟩
    · obtain ⟨hasks, before, after, hbefore, answer⟩ := told other hother
      exact ⟨hasks, before, after, same.trans hbefore, answer⟩

theorem Tells.page {zone : Zone} (hzone : zone ∈ (service.account s).zones) {page : Nat}
    (hpage : page = 0 ∨ page < (service.pages s zone.id).length) {request : Http.Request}
    {received : Http.Response} {batch : List DnsRecord} {total : Option UInt32}
    (told : service.Tells s ⟨.records zone.id (page + 1), request, some received⟩)
    (carries : Carries .records received (batch, total)) :
    batch = (service.pages s zone.id).getD page [] ∧
      (batch ≠ [] → total.map UInt32.toNat = some (service.pages s zone.id).length) ∧
        batch.filter (·.type == managedType) = batch := by
  obtain ⟨asks, before, after, same, answer⟩ := told
  obtain ⟨hbatch, htotal⟩ := service.records answer zone (same.account ▸ hzone) asks
    (same.pages ▸ hpage) carries
  rw [same.pages] at hbatch htotal
  refine ⟨hbatch, htotal, ?_⟩
  rw [hbatch]
  exact filter_page hzone page

/-- A listing of a reliable service comes to its end, and reads the pages. -/
theorem Reliable.listing (reliable : service.Reliable) {zone : Zone}
    (hzone : zone ∈ (service.account s).zones) {page : Nat}
    (hpage : page = 0 ∨ page < (service.pages s zone.id).length) {turns : List Turn}
    {reading : Option (List DnsRecord)} (listing : Listing zone.id (page + 1) turns reading)
    (told : ∀ turn ∈ turns, service.Tells s turn) :
    reading = some ((service.pages s zone.id).drop page).flatten := by
  have full := (service.paged s zone hzone).1
  generalize hnumber : page + 1 = number at listing
  induction listing generalizing page with
  | broken asked failed =>
    subst hnumber
    obtain ⟨asks, before, after, same, answer⟩ := told _ List.mem_cons_self
    rw [asked] at asks
    obtain ⟨received, value, hresponse, carries⟩ := reliable.lists answer zone
      (same.account ▸ hzone) asks (same.pages ▸ hpage)
    refine absurd ⟨received, hresponse, ?_⟩ failed
    rw [asked]
    exact ⟨value, carries⟩
  | @last number request received batch total carries ends =>
    subst hnumber
    obtain ⟨hbatch, htotal, hfilter⟩ := (told _ List.mem_cons_self).page hzone hpage carries
    rw [hfilter]
    rcases drop_pages full page with ⟨hempty, hlength⟩ | ⟨hfull, hlength, hdrop⟩
    · rw [List.drop_eq_nil_of_le hlength, hbatch, hempty, List.flatten_nil]
    · rw [← hbatch] at hfull hdrop
      obtain ⟨pages, rfl, hpages⟩ := Option.map_eq_some_iff.1 (htotal hfull)
      have hlast := ends.resolve_left hfull
      rw [Option.getD_some, hpages] at hlast
      rw [hdrop, List.drop_eq_nil_of_le hlast, List.flatten_singleton]
  | @more number request received batch total turns reading carries goes rest ih =>
    subst hnumber
    obtain ⟨hbatch, htotal, hfilter⟩ := (told _ List.mem_cons_self).page hzone hpage carries
    obtain ⟨pages, rfl, hpages⟩ := Option.map_eq_some_iff.1 (htotal goes.1)
    have hnext := goes.2
    rw [Option.getD_some, hpages] at hnext
    have hread := ih (.inr hnext) (fun turn h => told turn (List.mem_cons_of_mem _ h)) rfl
    rcases drop_pages full page with ⟨hempty, -⟩ | ⟨-, -, hdrop⟩
    · exact absurd (hbatch.trans hempty) goes.1
    · rw [hread, hfilter, hdrop, ← hbatch, Option.map_some, List.flatten_cons]

theorem reaches_publicUrl (hbase : client.baseUrl = publicUrl) : client.Reaches "/zones" := by
  have hparse : (Url.parse (publicUrl ++ "/zones")).toOption.map Url.isHttp = some true := by
    decide +kernel
  obtain ⟨url, hurl, hhttp⟩ := Option.map_eq_some_iff.1 hparse
  refine ⟨url, ?_, hhttp⟩
  rw [hbase]
  cases hfound : Url.parse (publicUrl ++ "/zones") with
  | error fault =>
    rw [hfound] at hurl
    cases hurl
  | ok found =>
    rw [hfound] at hurl
    cases hurl
    rfl

theorem Reliable.visit (reliable : service.Reliable) (hbase : client.baseUrl = publicUrl)
    {wanted : ZoneConfig} (exist : ∃ zone ∈ (service.account s).zones, zone.name = wanted.name)
    {turns : List Turn} {reading : Option (Zone × List DnsRecord)}
    (visit : Visit client wanted turns reading) (told : ∀ turn ∈ turns, service.Tells s turn) :
    ∃ zone ∈ (service.account s).zones, zone.name = wanted.name ∧
      reading = some (zone, (service.pages s zone.id).flatten) := by
  cases visit with
  | unreached h => exact absurd (reaches_publicUrl hbase) h
  | unresolved asked unresolved =>
    obtain ⟨asks, before, after, same, answer⟩ := told _ List.mem_cons_self
    rw [asked] at asks
    obtain ⟨received, found, total, hresponse, carries, complete⟩ := reliable.finds answer asks
    obtain ⟨zone, hzone, hname⟩ := exist
    have hfound := complete zone (same.account ▸ hzone) hname
    cases hfind : found.find? fun zone => zone.name == wanted.name with
    | none => simpa [hname] using List.find?_eq_none.1 hfind zone hfound
    | some other =>
      exact absurd ⟨asked, received, found, total, hresponse, carries, hfind⟩ (unresolved other)
  | @listed lookup zone turns reading found listing =>
    obtain ⟨asks, before, after, same, answer⟩ := told _ List.mem_cons_self
    have hname := found.name_eq
    obtain ⟨asked, received, zones, total, hresponse, carries, hfind⟩ := found
    rw [asked] at asks
    rw [hresponse] at answer
    have hzone := service.zones answer asks carries zone (List.mem_of_find?_eq_some hfind)
    rw [same.account] at hzone
    have hread := reliable.listing hzone (.inl rfl) listing
      fun turn h => told turn (List.mem_cons_of_mem _ h)
    exact ⟨zone, hzone, hname, by rw [hread, List.drop_zero, Option.map_some]⟩

/-- What a visit shows is the content of a record that is wanted, or there is no such record. -/
theorem Reliable.sees (reliable : service.Reliable) (hbase : client.baseUrl = publicUrl)
    {wanted : ZoneConfig} (exist : ∃ zone ∈ (service.account s).zones, zone.name = wanted.name)
    {turns : List Turn} {shown : Option String} (sees : client.Sees wanted turns shown)
    (told : ∀ turn ∈ turns, service.Tells s turn) :
    ∃ zone ∈ (service.account s).zones, zone.name = wanted.name ∧
      (∀ address, shown = some address → ∃ record ∈ (service.account s).managed zone.id,
        wanted.wants record.name = true ∧ record.content = address) ∧
      (shown = none → ∀ record ∈ (service.account s).managed zone.id,
        wanted.wants record.name = false) := by
  obtain ⟨reading, visit, hshown⟩ := sees
  obtain ⟨zone, hzone, hname, rfl⟩ := reliable.visit hbase exist visit told
  have listed := (service.paged s zone hzone).2
  rw [Option.bind_some] at hshown
  refine ⟨zone, hzone, hname, ?_, ?_⟩
  · intro address haddress
    rw [haddress] at hshown
    obtain ⟨record, hfind, hcontent⟩ := Option.map_eq_some_iff.1 hshown.symm
    have hmem := listed.mem_iff.1 (List.mem_of_find?_eq_some hfind)
    obtain ⟨hosted, hhosted, rfl⟩ := List.mem_map.1 hmem
    have hwants := List.find?_some hfind
    exact ⟨hosted, hhosted, hwants, hcontent⟩
  · intro hnone record hrecord
    rw [hnone] at hshown
    have hfind := List.find?_eq_none.1 (Option.map_eq_none_iff.1 hshown.symm)
    simpa using hfind record.toDnsRecord (listed.mem_iff.2 (List.mem_map_of_mem hrecord))

theorem exists_visit {zones : List ZoneConfig} {visits : List (List Turn)}
    (h : List.Forall₂ (client.Sees · · none) zones visits) {wanted : ZoneConfig}
    (hwanted : wanted ∈ zones) : ∃ visit ∈ visits, client.Sees wanted visit none := by
  induction h with
  | nil => cases hwanted
  | @cons first visit zones visits sees rest ih =>
    rcases List.mem_cons.1 hwanted with rfl | hwanted
    · exact ⟨visit, List.mem_cons_self, sees⟩
    · obtain ⟨other, hother, hsees⟩ := ih hwanted
      exact ⟨other, List.mem_cons_of_mem _ hother, hsees⟩

/-- Where all configured records hold an address it is read, if there are any. -/
theorem Reliable.getIp_of_inSync (reliable : service.Reliable) (hbase : client.baseUrl = publicUrl)
    (proper : (service.account s).Proper)
    (exist : ∀ wanted ∈ client.config.zones,
      ∃ zone ∈ (service.account s).zones, zone.name = wanted.name)
    (inSync : (service.account s).InSync client.config ip) {result : Except ClientError String}
    (yields : client.getIp.run.Yields service.answers s result s') :
    ((∃ record ∈ (service.account s).records,
        (service.account s).entries client.config.zones record ≠ []) ∧ result = .ok ip) ∨
      (¬(∃ record ∈ (service.account s).records,
        (service.account s).entries client.config.zones record ≠ []) ∧
          result = .error .noZoneResolved) := by
  obtain ⟨log, overhears, serves⟩ := exists_serves yields []
  obtain ⟨turns, hlog, sent, finds⟩ :=
    (client.converses_firstIp client.config.zones).turns overhears
  rw [List.nil_append, List.nil_append] at hlog
  subst hlog
  obtain ⟨-, told⟩ := serves.tells (fun turn h => (sent turn h).asks hbase) finds.method_eq
  cases result with
  | ok address =>
    obtain ⟨skipped, wanted, rest, visits, visit, hzones, rfl, -, sees⟩ := finds.found address rfl
    have hwanted : wanted ∈ client.config.zones := by simp [hzones]
    obtain ⟨zone, hzone, hname, hshown, -⟩ := reliable.sees hbase (exist wanted hwanted) sees
      fun turn h => told turn (List.mem_append_right _ h)
    obtain ⟨record, hrecord, hwants, hcontent⟩ := hshown address rfl
    obtain ⟨hmem, hin, htype⟩ := Account.mem_managed.1 hrecord
    refine .inl ⟨⟨record, hmem, Account.entries_ne_nil.2 ?_⟩, ?_⟩
    · exact ⟨htype, wanted, hwanted, ⟨zone, hzone, hin.symm, hname⟩, hwants⟩
    · rw [← hcontent, inSync wanted hwanted zone hzone hname record hrecord hwants]
  | error e =>
    obtain ⟨rfl, visits, rfl, passes⟩ := finds.failed e rfl
    refine .inr ⟨?_, rfl⟩
    rintro ⟨record, hrecord, hentries⟩
    obtain ⟨htype, wanted, hwanted, ⟨zone, hzone, hin, hname⟩, hwants⟩ :=
      Account.entries_ne_nil.1 hentries
    obtain ⟨visit, hvisit, sees⟩ := exists_visit passes hwanted
    obtain ⟨other, hother, hname', -, hnone⟩ := reliable.sees hbase (exist wanted hwanted) sees
      fun turn h => told turn (List.mem_flatten.2 ⟨visit, hvisit, h⟩)
    obtain rfl := proper.eq_of_name_eq hother hzone (hname'.trans hname.symm)
    have := hnone rfl record (Account.mem_managed.2 ⟨hrecord, hin.symm, htype⟩)
    simp [hwants] at this

end Service

/-! ### A service that does not fail -/

namespace Pair

def client : Client := ⟨publicUrl, "secret", config⟩

theorem carries_of_read {α : Type} {reader : ResultReader α} {response : Option Http.Response}
    {result : α} (h : (response.bind (Envelope.ofResponse? reader)).map
      (fun envelope => (envelope.success, envelope.result)) = some (true, some result)) :
    ∃ received total, response = some received ∧ Carries reader received (result, total) := by
  obtain ⟨envelope, henvelope, hread⟩ := Option.map_eq_some_iff.1 h
  obtain ⟨received, rfl, henvelope⟩ := Option.bind_eq_some_iff.1 henvelope
  obtain ⟨hsuccess, hresult⟩ := Prod.mk.inj hread
  refine ⟨received, envelope.totalPages, rfl, envelope, henvelope, ?_⟩
  simp only [Envelope.answer, hsuccess, hresult]
  rfl

theorem read_found : (found.bind (Envelope.ofResponse? .zones)).map
    (fun envelope => (envelope.success, envelope.result)) =
      some (true, some [⟨"z", "a.dev"⟩]) := by
  decide +kernel

theorem read_page (changed : Bool) (page : Nat) :
    ((success (.arr [written (if page = 0 then first changed else second changed)]) 2).bind
      (Envelope.ofResponse? .records)).map (fun envelope => (envelope.success, envelope.result)) =
        some (true, some [if page = 0 then first changed else second changed]) := by
  split <;> revert changed <;> decide +kernel

theorem reliable : service.Reliable where
  total s request := ⟨(answer request s).1, (answer request s).2, rfl⟩
  finds {s request response s' name} h asks := by
    obtain ⟨received, total, hresponse, carries⟩ := carries_of_read read_found
    refine ⟨received, _, total, (answer_of_zones asks h).trans hresponse, carries, ?_⟩
    intro zone hzone _
    exact hzone
  lists {s request response s' page} h zone hzone asks hpage := by
    rw [List.mem_singleton.1 hzone] at asks
    have hlength : page < 2 := by
      rcases hpage with rfl | hpage
      · decide
      · exact hpage
    have hresponse := answer_of_records hlength asks h
    have hwritten : written (if page = 0 then first s.1 else second s.2) =
        written (if page = 0 then first (if page = 0 then s.1 else s.2)
          else second (if page = 0 then s.1 else s.2)) := by
      split <;> rfl
    rw [hwritten] at hresponse
    obtain ⟨received, total, hread, carries⟩ :=
      carries_of_read (read_page (if page = 0 then s.1 else s.2) page)
    exact ⟨received, _, hresponse.trans hread, carries⟩

theorem setIp_answered :
    ((client.setIp (address true)).run.run answer (false, false)).1.toOption = some () := by
  decide +kernel

theorem yields_setIp : ∃ s, (client.setIp (address true)).run.Yields service.answers (false, false)
    (.ok ()) s := by
  have yields : (client.setIp (address true)).run.Yields service.answers (false, false)
      ((client.setIp (address true)).run.run answer (false, false)).1
      ((client.setIp (address true)).run.run answer (false, false)).2 :=
    Program.yields_run (fun _ _ => rfl) _ _
  have hresult := setIp_answered
  cases h : ((client.setIp (address true)).run.run answer (false, false)).1 with
  | ok value =>
    rw [h] at yields
    exact ⟨_, yields⟩
  | error e =>
    rw [h] at hresult
    cases hresult

end Pair

namespace Service

/-! ### Setting and reading -/

/-- If setting the address succeeds, every A record that an entry matches is as the last of them
says, and nothing else has changed. The address can then be read, and it is read exactly if there is
a record that is matched; else no zone yields one. -/
theorem reads_back {σ : Type} (service : Service σ) {client : Client} {s s' : σ} {ip : String}
    (reliable : service.Reliable)
    (proper : (service.account s).Proper) (identified : (service.account s).Identified)
    (hbase : client.baseUrl = publicUrl)
    (exist : ∀ wanted ∈ client.config.zones,
      ∃ zone ∈ (service.account s).zones, zone.name = wanted.name)
    (sets : (client.setIp ip).run.Yields service.answers s (.ok ()) s') :
    service.account s' = (service.account s).assign ip client.config.zones ∧
    (∃ result s'', client.getIp.run.Yields service.answers s' result s'') ∧
    ∀ result s'', client.getIp.run.Yields service.answers s' result s'' →
      ((∃ record ∈ (service.account s).records,
          (service.account s).entries client.config.zones record ≠ []) ∧ result = .ok ip) ∨
        (¬(∃ record ∈ (service.account s).records,
          (service.account s).entries client.config.zones record ≠ []) ∧
            result = .error .noZoneResolved) := by
  have hassign := ((keeps_assign hbase proper identified ip).of_yields sets).1 () rfl
  have inSync := ((keeps_setIp hbase proper ip).of_yields sets).1 () rfl
  have hmatched : (∃ record ∈ (service.account s').records,
      (service.account s').entries client.config.zones record ≠ []) ↔
      ∃ record ∈ (service.account s).records,
        (service.account s).entries client.config.zones record ≠ [] := by
    rw [hassign]
    exact Account.exists_entries_assign
  refine ⟨hassign, Program.exists_yields reliable.total _ _, ?_⟩
  intro result s'' yields
  rw [← hmatched]
  refine reliable.getIp_of_inSync hbase ?_ ?_ inSync yields
  · rw [hassign]
    exact proper
  · rw [hassign]
    exact exist

/-- Both records are set and the address is read back. -/
theorem reads_back_of_pair :
    Pair.service.Reliable ∧ (Pair.service.account (false, false)).Proper ∧
    (Pair.service.account (false, false)).Identified ∧
    ∃ s s', (Pair.client.setIp (Pair.address true)).run.Yields Pair.service.answers (false, false)
        (.ok ()) s ∧
      Pair.service.account s = (Pair.service.account (false, false)).assign (Pair.address true)
        Pair.config.zones ∧
      Pair.client.getIp.run.Yields Pair.service.answers s (.ok (Pair.address true)) s' := by
  have proper : (Pair.service.account (false, false)).Proper := List.pairwise_singleton _ _
  have identified : (Pair.service.account (false, false)).Identified := by
    rw [Account.Identified]
    decide
  obtain ⟨s, sets⟩ := Pair.yields_setIp
  obtain ⟨hassign, ⟨result, s', yields⟩, hreads⟩ := reads_back Pair.service Pair.reliable proper
    identified rfl (by decide) sets
  refine ⟨Pair.reliable, proper, identified, s, s', sets, hassign, ?_⟩
  rcases hreads result s' yields with ⟨-, rfl⟩ | ⟨hnone, -⟩
  · exact yields
  · exact absurd ⟨⟨Pair.first false, "z", false⟩, by decide +kernel, by decide +kernel⟩ hnone

end Service

end DynamicDns.Cloudflare
