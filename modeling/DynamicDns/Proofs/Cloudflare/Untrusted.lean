import DynamicDns.Proofs.Cloudflare.Visit
import Mathlib.Data.List.Forall2

/-!
# Against any server

Whatever it is told, reading the address only asks, and setting it changes no record but those that
were listed in a zone found by its name, and stops at the first answer that is not a success. The
client does not get around a zone that failed when it sets the address, and always does when it reads
it.
-/

namespace DynamicDns.Cloudflare

namespace Client

variable {client : Client} {ip : String} {wanted : ZoneConfig} {zones : List ZoneConfig}
  {turns before after : List Turn} {result : Except ClientError Unit}

/-! ### Reading the address -/

/-- What a visit shows as the address: the content of the first listed record that is wanted. -/
def Sees (client : Client) (wanted : ZoneConfig) (turns : List Turn) (shown : Option String) : Prop :=
  ∃ reading, Visit client wanted turns reading ∧ shown = reading.bind fun (_, records) =>
    (records.find? fun record => wanted.wants record.name).map (·.content)

structure Finds (client : Client) (zones : List ZoneConfig) (turns : List Turn)
    (result : Except ClientError String) : Prop where
  found : ∀ ip, result = .ok ip → ∃ skipped wanted rest visits visit,
    zones = skipped ++ wanted :: rest ∧ turns = visits.flatten ++ visit ∧
      List.Forall₂ (client.Sees · · none) skipped visits ∧ client.Sees wanted visit (some ip)
  failed : ∀ e, result = .error e → e = .noZoneResolved ∧
    ∃ visits, turns = visits.flatten ∧ List.Forall₂ (client.Sees · · none) zones visits

theorem converses_ipFromZone (client : Client) (wanted : ZoneConfig) :
    client.Converses (client.ipFromZone wanted) fun turns result =>
      client.Sees wanted turns result.toOption := by
  rw [ipFromZone]
  apply converses_visit
  · intro turns e h
    exact ⟨none, h, rfl⟩
  · intro before zone records _ visit
    have hwants : (fun record : DnsRecord => wanted.records.any fun entry =>
        entry.name == record.name) = fun record => wanted.wants record.name := rfl
    rw [hwants]
    cases hfind : records.find? fun record => wanted.wants record.name with
    | some record =>
      apply converses_pure
      rw [List.append_nil]
      exact ⟨_, visit, by simp [hfind, Except.toOption]⟩
    | none =>
      apply converses_throw
      rw [List.append_nil]
      exact ⟨_, visit, by simp [hfind, Except.toOption]⟩

theorem Finds.skip {result : Except ClientError String} (passes : client.Sees wanted before none)
    (h : client.Finds zones after result) : client.Finds (wanted :: zones) (before ++ after) result := by
  constructor
  · intro ip hresult
    obtain ⟨skipped, next, rest, visits, visit, rfl, rfl, hvisits, hvisit⟩ := h.found ip hresult
    exact ⟨wanted :: skipped, next, rest, before :: visits, visit, rfl, by simp,
      .cons passes hvisits, hvisit⟩
  · intro e hresult
    obtain ⟨he, visits, rfl, hvisits⟩ := h.failed e hresult
    exact ⟨he, before :: visits, by simp, .cons passes hvisits⟩

theorem converses_firstIp (client : Client) (zones : List ZoneConfig) :
    client.Converses (client.firstIp zones) (client.Finds zones) := by
  induction zones with
  | nil =>
    apply converses_throw
    exact ⟨by simp, fun e he => ⟨(Except.error.inj he).symm, [], rfl, .nil⟩⟩
  | cons wanted zones ih =>
    apply converses_tryCatch (client.converses_ipFromZone wanted)
    · intro before e passes
      exact ih.mono fun after result finds => finds.skip passes
    · intro turns ip sees
      refine ⟨?_, by simp⟩
      intro ip' hip
      cases hip
      exact ⟨[], wanted, zones, [], turns, rfl, rfl, .nil, sees⟩

/-! ### Changes -/

structure Changes (made : Operation → Prop) (turns : List Turn) (result : Except ClientError Unit) :
    Prop where
  made : ∀ turn ∈ turns, made turn.operation
  prompt : ∀ turn ∈ turns.dropLast, turn.Answered
  ok_iff : result = .ok () ↔ ∀ turn ∈ turns, turn.Answered

theorem prompt_append (answered : ∀ turn ∈ before, turn.Answered)
    (prompt : ∀ turn ∈ after.dropLast, turn.Answered) :
    ∀ turn ∈ (before ++ after).dropLast, turn.Answered := by
  intro turn hturn
  rw [List.dropLast_append] at hturn
  split at hturn
  · exact answered turn (List.dropLast_subset _ hturn)
  · exact (List.mem_append.1 hturn).elim (answered turn) (prompt turn)

variable {made : Operation → Prop}

theorem changes_nil : Changes made [] (.ok ()) := ⟨by simp, by simp, by simp⟩

theorem Changes.append (first : Changes made before (.ok ())) (second : Changes made after result) :
    Changes made (before ++ after) result := by
  have answered := first.ok_iff.1 rfl
  refine ⟨?_, prompt_append answered second.prompt, ?_⟩
  · intro turn hturn
    exact (List.mem_append.1 hturn).elim (first.made turn) (second.made turn)
  · rw [second.ok_iff]
    simp only [List.mem_append]
    exact ⟨fun h turn hturn => hturn.elim (answered turn) (h turn), fun h turn hturn => h turn (.inr hturn)⟩

theorem Changes.mono {made' : Operation → Prop} (h : Changes made turns result)
    (weaker : ∀ operation, made operation → made' operation) : Changes made' turns result :=
  ⟨fun turn hturn => weaker _ (h.made turn hturn), h.prompt, h.ok_iff⟩

theorem converses_forM {γ : Type} {f : γ → Exchanging Unit} (list : List γ)
    (h : ∀ a ∈ list, client.Converses (f a) (Changes made)) :
    client.Converses (list.forM f) (Changes made) := by
  induction list with
  | nil => exact converses_pure changes_nil
  | cons a list ih =>
    refine Converses.bind (h a List.mem_cons_self) ?_ fun _ _ => id
    intro before _ first
    exact (ih fun b hb => h b (List.mem_cons_of_mem a hb)).mono fun after result => first.append

theorem converses_updateRecord (h : client.Reaches "/zones") (zone record ip : String)
    (proxied : Bool) :
    client.Converses (client.updateRecord zone record ip proxied)
      (Changes (· = .change zone record ip proxied)) := by
  have hrequest : client.Converses (client.request .anything .patch
      ("/zones/" ++ zone ++ "/dns_records/" ++ record) []
        (some (Json.object [("content", .str ip), ("proxied", .bool proxied)])))
      fun turns result => ∃ request response,
        turns = [⟨.change zone record ip proxied, request, response⟩] ∧
          Told .anything response result := by
    apply converses_request (.change zone record ip proxied)
    · intro e unreached
      refine absurd ?_ unreached
      rw [Operation.path, String.append_assoc, String.append_assoc]
      exact h.below _
    · intro request response result reaches told
      exact ⟨request, response, rfl, told⟩
  refine Converses.bind hrequest ?_ ?_
  · rintro _ value ⟨request, response, rfl, told⟩
    obtain ⟨received, rfl, carries⟩ := (told value).1 rfl
    apply converses_pure
    exact ⟨by simp, by simp, by simpa [Turn.Answered, Operation.Accepts] using ⟨_, _, carries⟩⟩
  · rintro _ e ⟨request, response, rfl, told⟩
    refine ⟨by simp, by simp, ?_⟩
    have unanswered : ∀ received value, response = some received →
        ¬Carries .anything received value := by
      intro received value hresponse carries
      cases (told value).2 ⟨received, hresponse, carries⟩
    simp only [reduceCtorEq, List.mem_singleton, forall_eq, false_iff]
    rintro ⟨received, hresponse, value, carries⟩
    exact unanswered received value hresponse carries

/-! ### Setting the address -/

/-- A change is of an A record that was just listed, in a zone found by its exact name, under a name
configured for that zone. -/
def Warrants (client : Client) (ip : String) (wanted : ZoneConfig) (before : List Turn)
    (operation : Operation) : Prop :=
  ∃ earlier visit changes zone records, before = earlier ++ (visit ++ changes) ∧
    Visit client wanted visit (some (zone, records)) ∧ zone.name = wanted.name ∧
    (∀ turn ∈ changes, turn.operation.method = .patch) ∧
    ∃ listed ∈ records, listed.type = managedType ∧ ∃ entry ∈ wanted.records,
      entry.name = listed.name ∧ operation = .change zone.id listed.id ip entry.proxied

/-- Changes are warranted, nothing is asked after an answer that is not a success, and all is well
exactly if every answer is a success and each zone was found. -/
structure Pushes (client : Client) (ip : String) (zones : List ZoneConfig) (turns : List Turn)
    (result : Except ClientError Unit) : Prop where
  changes : ∀ before turn after, turns = before ++ turn :: after → turn.operation.method = .patch →
    ∃ wanted ∈ zones, client.Warrants ip wanted before turn.operation
  prompt : ∀ turn ∈ turns.dropLast, turn.Answered
  lookups : (turns.filter (·.operation.isLookup)).length ≤ zones.length
  ok_iff : result = .ok () ↔ (∀ turn ∈ turns, turn.Answered) ∧
    List.Forall₂ (fun turn (wanted : ZoneConfig) => ∃ zone, turn.Resolves wanted.name zone)
      (turns.filter (·.operation.isLookup)) zones

theorem append_eq_append_cons {turn : Turn} {front back : List Turn}
    (h : before ++ after = front ++ turn :: back) :
    turn ∈ before ∧ (∃ rest, before = front ++ turn :: rest) ∨
      ∃ middle, front = before ++ middle ∧ after = middle ++ turn :: back := by
  rcases List.append_eq_append_iff.1 h with ⟨middle, hfront, hafter⟩ | ⟨rest, hbefore, hback⟩
  · exact .inr ⟨middle, hfront, hafter⟩
  · cases rest with
    | nil => exact .inr ⟨[], by simpa using hbefore.symm, by simpa using hback.symm⟩
    | cons first rest =>
      cases hback
      exact .inl ⟨by simp [hbefore], rest, hbefore⟩

theorem pushes_nil : client.Pushes ip [] [] (.ok ()) :=
  ⟨by simp, by simp, by simp, by simp⟩

theorem pushes_of_incomplete (visit : Visit client wanted turns none) (e : ClientError) :
    client.Pushes ip [wanted] turns (.error e) := by
  obtain ⟨hlookups, hincomplete⟩ := visit.incomplete
  refine ⟨?_, visit.prompt, hlookups, by simpa using hincomplete⟩
  rintro before turn after rfl hmethod
  have hget := visit.method_eq turn (by simp)
  rw [hget] at hmethod
  cases hmethod

theorem pushes_of_complete {zone : Zone} {records : List DnsRecord}
    (visit : Visit client wanted before (some (zone, records)))
    (changes : Changes (fun operation => ∃ listed ∈ records, ∃ entry ∈ wanted.records,
      entry.name = listed.name ∧ operation = .change zone.id listed.id ip entry.proxied)
      after result) :
    client.Pushes ip [wanted] (before ++ after) result := by
  obtain ⟨answered, ⟨lookup, hlookup, resolves⟩, hname, htype⟩ := visit.complete
  have hchange : ∀ turn ∈ after, turn.operation.method = .patch := by
    intro turn hturn
    obtain ⟨listed, -, entry, -, -, hoperation⟩ := changes.made turn hturn
    rw [hoperation, Operation.method]
  have hlookups : (before ++ after).filter (·.operation.isLookup) = [lookup] := by
    have hnone : after.filter (·.operation.isLookup) = [] := by
      rw [List.filter_eq_nil_iff]
      intro turn hturn
      obtain ⟨listed, -, entry, -, -, hoperation⟩ := changes.made turn hturn
      simp [hoperation, Operation.isLookup]
    rw [List.filter_append, hlookup, hnone, List.append_nil]
  refine ⟨?_, prompt_append answered changes.prompt, by simp [hlookups], ?_⟩
  · intro front turn back hsplit hmethod
    rcases append_eq_append_cons hsplit with ⟨hturn, -⟩ | ⟨middle, rfl, rfl⟩
    · rw [visit.method_eq turn hturn] at hmethod
      cases hmethod
    · obtain ⟨listed, hlisted, entry, hentry, hentryName, hoperation⟩ :=
        changes.made turn (by simp)
      exact ⟨wanted, by simp, [], before, middle, zone, records, by simp, visit, hname,
        fun turn hturn => hchange turn (by simp [hturn]), listed, hlisted, htype listed hlisted,
        entry, hentry, hentryName, hoperation⟩
  · have resolved : ∃ zone, lookup.Resolves wanted.name zone := ⟨zone, resolves⟩
    rw [changes.ok_iff, hlookups]
    simp only [List.mem_append, List.forall₂_cons, resolved, List.Forall₂.nil, and_true]
    exact ⟨fun h turn hturn => hturn.elim (answered turn) (h turn), fun h turn hturn => h turn (.inr hturn)⟩

theorem Pushes.append (first : client.Pushes ip [wanted] before (.ok ()))
    (second : client.Pushes ip zones after result) :
    client.Pushes ip (wanted :: zones) (before ++ after) result := by
  obtain ⟨answered, resolved⟩ := first.ok_iff.1 rfl
  have hlength := resolved.length_eq
  refine ⟨?_, prompt_append answered second.prompt, ?_, ?_⟩
  · intro front turn back hsplit hmethod
    rcases append_eq_append_cons hsplit with ⟨-, rest, hbefore⟩ | ⟨middle, rfl, hafter⟩
    · obtain ⟨found, hfound, warrants⟩ := first.changes front turn rest hbefore hmethod
      rw [List.mem_singleton] at hfound
      exact ⟨wanted, by simp, hfound ▸ warrants⟩
    · obtain ⟨found, hfound, earlier, visit, changes, zone, records, rfl, warrants⟩ :=
        second.changes middle turn back hafter hmethod
      exact ⟨found, List.mem_cons_of_mem _ hfound, before ++ earlier, visit, changes, zone,
        records, by simp, warrants⟩
  · have := second.lookups
    simp only [List.filter_append, List.length_append, List.length_cons, List.length_nil] at hlength ⊢
    omega
  · obtain ⟨lookup, none, resolves, hnone, hlookup⟩ := List.forall₂_cons_right_iff.1 resolved
    rw [List.forall₂_nil_right_iff] at hnone
    subst hnone
    rw [second.ok_iff, List.filter_append, hlookup, List.singleton_append, List.forall₂_cons]
    simp only [List.mem_append, resolves, true_and]
    exact and_congr_left fun _ =>
      ⟨fun h turn hturn => hturn.elim (answered turn) (h turn), fun h turn hturn => h turn (.inr hturn)⟩

theorem Pushes.stop {e : ClientError} (h : client.Pushes ip [wanted] turns (.error e))
    (zones : List ZoneConfig) : client.Pushes ip (wanted :: zones) turns (.error e) := by
  refine ⟨?_, h.prompt, ?_, ?_⟩
  · intro before turn after hsplit hmethod
    obtain ⟨found, hfound, warrants⟩ := h.changes before turn after hsplit hmethod
    rw [List.mem_singleton] at hfound
    exact ⟨wanted, by simp, hfound ▸ warrants⟩
  · have := h.lookups
    simp only [List.length_cons, List.length_nil] at this ⊢
    omega
  · have hfails := h.ok_iff
    have hlookups := h.lookups
    simp only [reduceCtorEq, false_iff] at hfails ⊢
    rintro ⟨answered, resolved⟩
    have hlength := resolved.length_eq
    cases zones with
    | nil => exact hfails ⟨answered, resolved⟩
    | cons next zones =>
      simp only [List.length_cons, List.length_nil] at hlength hlookups
      omega

theorem converses_setZoneIp (client : Client) (ip : String) (wanted : ZoneConfig) :
    client.Converses (client.setZoneIp ip wanted) (client.Pushes ip [wanted]) := by
  rw [setZoneIp]
  apply converses_visit
  · intro turns e visit
    exact pushes_of_incomplete visit e
  · intro before zone records reaches visit
    refine Converses.mono (converses_forM wanted.records fun entry hentry => ?_)
      fun after result => pushes_of_complete visit
    refine converses_forM _ fun listed hlisted => ?_
    rw [List.mem_filter, beq_iff_eq] at hlisted
    refine (converses_updateRecord reaches zone.id listed.id ip entry.proxied).mono
      fun turns result changes => changes.mono ?_
    rintro operation rfl
    exact ⟨listed, hlisted.1, entry, hentry, hlisted.2.symm, rfl⟩

theorem converses_setIp (client : Client) (ip : String) :
    client.Converses (client.setIp ip) (client.Pushes ip client.config.zones) := by
  rw [setIp]
  induction client.config.zones with
  | nil => exact converses_pure pushes_nil
  | cons wanted zones ih =>
    refine Converses.bind (client.converses_setZoneIp ip wanted) ?_ ?_
    · intro before _ first
      exact ih.mono fun after result => first.append
    · intro turns e first
      exact first.stop zones

/-! ### Any server -/

/-- Everything that can be heard are turns of a client, and each of its requests shows the token. -/
structure Held (client : Client) (token : String) (turns : List Turn) (log : Log) : Prop where
  log_eq : log = turns.map Turn.heard
  sent : ∀ turn ∈ turns, turn.operation.SentBy client turn.request
  authorized : ∀ turn ∈ turns, ("authorization", "Bearer " ++ token) ∈ turn.request.headers

theorem headers_of_create {config : Config} {token baseUrl : String}
    (h : create config token baseUrl = .ok client) :
    client.config = config ∧ ("authorization", "Bearer " ++ token) ∈ client.headers := by
  rw [create] at h
  split at h
  · rename_i htoken
    cases h
    simp [headers, htoken]
  · cases h

theorem Converses.held {α : Type} {exchange : Exchanging α} {config : Config}
    {token baseUrl : String} (hcreate : create config token baseUrl = .ok client)
    {tells : List Turn → Except ClientError α → Prop} (h : client.Converses exchange tells)
    {result : Except ClientError α} {log : Log} (yields : exchange.run.Yields Overhears [] result log) :
    ∃ turns, client.Held token turns log ∧ tells turns result := by
  obtain ⟨turns, hlog, sent, htells⟩ := h.turns yields
  refine ⟨turns, ⟨by simpa using hlog, sent, ?_⟩, htells⟩
  intro turn hturn
  rw [(sent turn hturn).headers]
  exact (headers_of_create hcreate).2

theorem Sees.method_eq {shown : Option String} (h : client.Sees wanted turns shown) :
    ∀ turn ∈ turns, turn.operation.method = .get := by
  obtain ⟨reading, visit, -⟩ := h
  exact visit.method_eq

theorem method_eq_of_forall₂ {visits : List (List Turn)}
    (h : List.Forall₂ (client.Sees · · none) zones visits) :
    ∀ turn ∈ visits.flatten, turn.operation.method = .get := by
  induction h with
  | nil => simp
  | cons sees rest ih =>
    intro turn hturn
    rw [List.flatten_cons] at hturn
    exact (List.mem_append.1 hturn).elim (sees.method_eq turn) (ih turn)

theorem Finds.method_eq {result : Except ClientError String} (h : client.Finds zones turns result) :
    ∀ turn ∈ turns, turn.operation.method = .get := by
  cases result with
  | ok ip =>
    obtain ⟨skipped, wanted, rest, visits, visit, -, rfl, passes, sees⟩ := h.found ip rfl
    intro turn hturn
    exact (List.mem_append.1 hturn).elim (method_eq_of_forall₂ passes turn) (sees.method_eq turn)
  | error e =>
    obtain ⟨-, visits, rfl, passes⟩ := h.failed e rfl
    exact method_eq_of_forall₂ passes

/-! ### A server that breaks down -/

end Client

namespace Frail

def config : Config := ⟨[⟨"a.dev", [⟨"a.dev", true⟩]⟩]⟩

def client : Client := ⟨"http://dns.test", "secret", config⟩

def responses : List (Option Http.Response) :=
  [Pair.found, Pair.success (.arr [Pair.written (Pair.first false)]) 1]

def answer (request : Http.Request) (log : Log) : Option Http.Response × Log :=
  let response := (responses[log.length]?).join
  (response, log ++ [(request, response)])

theorem create_client : Client.create config "secret" "http://dns.test/" = .ok client := by
  have htrimmed : String.ofList ("http://dns.test/".toList.reverse.dropWhile (· = '/')).reverse =
      "http://dns.test" := by decide +kernel
  have htoken : isHeaderText "secret" = true := by decide
  simp only [Client.create, if_pos htoken, htrimmed]
  rfl

theorem getIp_answered :
    (client.getIp.run.run answer []).1.toOption = some (Pair.address false) := by
  decide +kernel

theorem setIp_answered :
    ((client.setIp (Pair.address true)).run.run answer []).1.toOption = none ∧
      ((client.setIp (Pair.address true)).run.run answer []).2.length = 3 := by
  decide +kernel

theorem yields {α : Type} (exchange : Exchanging α) :
    exchange.run.Yields Overhears [] (exchange.run.run answer []).1 (exchange.run.run answer []).2 :=
  Program.yields_run (fun _ _ => rfl) exchange.run []

end Frail

namespace Client

/-- Whatever it is told, a client shows its token with every request. Reading the address only asks,
and finds it where it is first shown. Setting it changes what it may, stops at the first answer that
is not a success, and succeeds exactly if there is none and each zone was found. -/
theorem safe_against_any_server {client : Client} {config : Config} {token baseUrl : String}
    (h : create config token baseUrl = .ok client) :
    (∀ result log, client.getIp.run.Yields Overhears [] result log →
      ∃ turns, client.Held token turns log ∧ (∀ turn ∈ turns, turn.request.method = .get) ∧
        client.Finds config.zones turns result) ∧
    ∀ ip result log, (client.setIp ip).run.Yields Overhears [] result log →
      ∃ turns, client.Held token turns log ∧ client.Pushes ip config.zones turns result := by
  have hconfig := (headers_of_create h).1
  constructor
  · intro result log yields
    obtain ⟨turns, held, finds⟩ := (client.converses_firstIp client.config.zones).held h yields
    refine ⟨turns, held, ?_, hconfig ▸ finds⟩
    intro turn hturn
    rw [(held.sent turn hturn).method, finds.method_eq turn hturn]
  · intro ip result log yields
    obtain ⟨turns, held, pushes⟩ := (client.converses_setIp ip).held h yields
    exact ⟨turns, held, hconfig ▸ pushes⟩

/-- The server breaks down when the record is to be changed. -/
theorem safe_against_frail_server :
    create Frail.config "secret" "http://dns.test/" = .ok Frail.client ∧
    (∃ log turns, Frail.client.getIp.run.Yields Overhears [] (.ok (Pair.address false)) log ∧
      Frail.client.Held "secret" turns log ∧ (∀ turn ∈ turns, turn.request.method = .get) ∧
        Frail.client.Finds Frail.config.zones turns (.ok (Pair.address false))) ∧
    ∃ e log turns, (Frail.client.setIp (Pair.address true)).run.Yields Overhears [] (.error e) log ∧
      log.length = 3 ∧ Frail.client.Held "secret" turns log ∧
        Frail.client.Pushes (Pair.address true) Frail.config.zones turns (.error e) := by
  obtain ⟨hget, hset⟩ := safe_against_any_server Frail.create_client
  refine ⟨Frail.create_client, ?_, ?_⟩
  · have hyields := Frail.yields Frail.client.getIp
    cases hresult : (Frail.client.getIp.run.run Frail.answer []).1 with
    | error e => simpa [hresult, Except.toOption] using Frail.getIp_answered
    | ok ip =>
      have hip : ip = Pair.address false := by
        simpa [hresult, Except.toOption] using Frail.getIp_answered
      rw [hresult, hip] at hyields
      obtain ⟨turns, held, hmethod, finds⟩ := hget _ _ hyields
      exact ⟨_, turns, hyields, held, hmethod, finds⟩
  · have hyields := Frail.yields (Frail.client.setIp (Pair.address true))
    obtain ⟨hfails, hlength⟩ := Frail.setIp_answered
    cases hresult : ((Frail.client.setIp (Pair.address true)).run.run Frail.answer []).1 with
    | ok value => simp [hresult, Except.toOption] at hfails
    | error e =>
      rw [hresult] at hyields
      obtain ⟨turns, held, pushes⟩ := hset _ _ _ hyields
      exact ⟨e, _, turns, hyields, hlength, held, pushes⟩

end Client

end DynamicDns.Cloudflare
