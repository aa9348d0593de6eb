import DynamicDns.Proofs.Cloudflare.Account
import DynamicDns.Proofs.Program

/-!
# A faithful service

A service hosts an account and answers requests. It may fail at any time, but what it answers with
success is true: zones that it finds are zones of the account, the pages of a listing are those that
the A records are split into, and a record that it says is changed is changed. Nothing else changes
the account.
-/

namespace DynamicDns.Cloudflare

section

variable {α β : Type}

theorem Exchanging.run_bind (exchange : Exchanging α) (f : α → Exchanging β) :
    (exchange >>= f).run = exchange.run.bind fun result =>
      match result with
      | .ok value => (f value).run
      | .error e => .done (.error e) := by
  change Program.bind _ _ = _
  congr 1
  funext result
  cases result <;> rfl

theorem Exchanging.run_tryCatch (exchange : Exchanging α) (handler : ClientError → Exchanging α) :
    (tryCatch exchange handler).run = exchange.run.bind fun result =>
      match result with
      | .ok value => .done (.ok value)
      | .error e => (handler e).run := by
  change Program.bind _ _ = _
  congr 1
  funext result
  cases result <;> rfl

end

/-! ### What can be asked -/

inductive Operation where
  | zones (name : String)
  | records (zone : String) (page : Nat)
  | change (zone record content : String) (proxied : Bool)

namespace Operation

def method : Operation → Http.Method
  | .zones _ => .get
  | .records _ _ => .get
  | .change _ _ _ _ => .patch

def path : Operation → String
  | .zones _ => "/zones"
  | .records zone _ => "/zones/" ++ zone ++ "/dns_records"
  | .change zone record _ _ => "/zones/" ++ zone ++ "/dns_records/" ++ record

def query : Operation → List (String × String)
  | .zones name => [("name", name)]
  | .records _ page =>
    [("type", managedType), ("page", toString page), ("per_page", toString pageSize)]
  | .change _ _ _ _ => []

def body : Operation → Option Json
  | .zones _ => none
  | .records _ _ => none
  | .change _ _ content proxied =>
    some (Json.object [("content", .str content), ("proxied", .bool proxied)])

structure Asks (operation : Operation) (request : Http.Request) : Prop where
  method : request.method = operation.method
  url : ∃ base, Url.parse (publicUrl ++ operation.path) = .ok base ∧ request.url =
    operation.query.foldl (fun url parameter => url.withParameter parameter.1 parameter.2) base
  body : request.body = operation.body

end Operation

def Carries {α : Type} (reader : ResultReader α) (response : Http.Response)
    (value : α × Option UInt32) : Prop :=
  ∃ envelope, Envelope.ofResponse? reader response = some envelope ∧
    envelope.answer response.status = .ok value

/-- A service that hosts an account. The A records of a zone are split into pages, none of them
empty. -/
structure Service (σ : Type) where
  account : σ → Account
  pages : σ → String → List (List DnsRecord)
  answers : σ → Http.Request → Option Http.Response → σ → Prop
  paged : ∀ s, ∀ zone ∈ (account s).zones, [] ∉ pages s zone.id ∧
    ((pages s zone.id).flatten).Perm (((account s).managed zone.id).map (·.toDnsRecord))
  reads : ∀ {s request response s'}, answers s request response s' → request.method = .get →
    account s' = account s ∧ pages s' = pages s
  zones : ∀ {s request response s' name found total}, answers s request (some response) s' →
    (Operation.zones name).Asks request → Carries .zones response (found, total) →
      ∀ zone ∈ found, zone ∈ (account s).zones
  records : ∀ {s request response s' page batch total}, answers s request (some response) s' →
    ∀ zone ∈ (account s).zones, (Operation.records zone.id (page + 1)).Asks request →
      page = 0 ∨ page < (pages s zone.id).length →
        Carries .records response (batch, total) →
          batch = (pages s zone.id).getD page [] ∧
            (batch ≠ [] → total.map UInt32.toNat = some (pages s zone.id).length)
  changes : ∀ {s request response s' content proxied result},
    answers s request (some response) s' →
      ∀ zone ∈ (account s).zones, ∀ record ∈ (account s).managed zone.id,
        (Operation.change zone.id record.id content proxied).Asks request →
          Carries .anything response result →
            account s' = (account s).change zone.id record.id content proxied

namespace Service

variable {σ α β : Type}

def rules (service : Service σ) : Program.Rules (fun _ : Http.Request => Option Http.Response) σ where
  allows _ _ := True
  answers := service.answers
  fails _ := True

/-- What an exchange gets to if it succeeds, and what holds if it fails. -/
structure Keeps (service : Service σ) (fails : σ → Prop) (gets : α → σ → Prop)
    (exchange : Exchanging α) (s : σ) : Prop where
  obeys : exchange.run.Obeys service.rules
    (fun result after =>
      match result with
      | .ok value => gets value after
      | .error _ => fails after) s

variable {service : Service σ} {fails : σ → Prop} {s s' : σ}

theorem Keeps.bind {gets : β → σ → Prop} {between : α → σ → Prop} {exchange : Exchanging α}
    {f : α → Exchanging β} (first : service.Keeps fails between exchange s)
    (second : ∀ value s', between value s' → service.Keeps fails gets (f value) s') :
    service.Keeps fails gets (exchange >>= f) s := by
  constructor
  rw [Exchanging.run_bind, Program.obeys_bind]
  refine first.obeys.mono fun result after got => ?_
  cases result with
  | ok value => exact (second value after got).obeys
  | error e => exact got

theorem Keeps.mono {fails' : σ → Prop} {gets gets' : α → σ → Prop} {exchange : Exchanging α}
    (h : service.Keeps fails gets exchange s) (hfails : ∀ s', fails s' → fails' s')
    (hgets : ∀ value s', gets value s' → gets' value s') :
    service.Keeps fails' gets' exchange s := by
  refine ⟨h.obeys.mono fun result after got => ?_⟩
  cases result with
  | ok value => exact hgets value after got
  | error e => exact hfails after got

theorem keeps_pure {gets : α → σ → Prop} {value : α} (h : gets value s) :
    service.Keeps fails gets (pure value) s :=
  ⟨h⟩

theorem keeps_throw {gets : α → σ → Prop} (e : ClientError) (h : fails s) :
    service.Keeps fails gets (throw e) s :=
  ⟨h⟩

theorem keeps_liftM {gets : α → σ → Prop} {result : Except ClientError α} (refused : fails s)
    (h : ∀ value, result = .ok value → gets value s) :
    service.Keeps fails gets (liftM (m := Except ClientError) result) s := by
  cases result with
  | ok value => exact ⟨h value rfl⟩
  | error e => exact ⟨refused⟩

theorem keeps_tryCatch {gets : α → σ → Prop} {between : σ → Prop} {exchange : Exchanging α}
    {handler : ClientError → Exchanging α} (first : service.Keeps between gets exchange s)
    (second : ∀ e s', between s' → service.Keeps fails gets (handler e) s') :
    service.Keeps fails gets (tryCatch exchange handler) s := by
  constructor
  rw [Exchanging.run_tryCatch, Program.obeys_bind]
  refine first.obeys.mono fun result after got => ?_
  cases result with
  | ok value => exact got
  | error e => exact (second e after got).obeys

theorem keeps_lift {gets : α → σ → Prop} {exchange : ExceptT HttpPhase Http.Exchange α}
    (h : exchange.run.Obeys service.rules
      (fun result after =>
        match result with
        | .ok value => gets value after
        | .error _ => fails after) s) :
    service.Keeps fails gets (Client.lift exchange) s := by
  refine ⟨(Program.obeys_bind service.rules _ exchange.run _ s).2 (h.mono ?_)⟩
  intro result after got
  cases result <;> exact got

theorem keeps_url {gets : Url → σ → Prop} {text : String} (unsent : fails s)
    (h : ∀ url, Url.parse text = .ok url → gets url s) :
    service.Keeps fails gets (Client.lift (Http.url text)) s := by
  apply keeps_lift
  rw [Http.url]
  cases hurl : Url.parse text with
  | error fault => exact unsent
  | ok url => exact h url hurl

theorem keeps_send {gets : Http.Response → σ → Prop} {request : Http.Request} (unsent : fails s)
    (sent : ∀ response s', service.answers s request response s' →
      fails s' ∧ ∀ received, response = some received → gets received s') :
    service.Keeps fails gets (Client.lift (Http.send request)) s := by
  apply keeps_lift
  rw [Http.send]
  by_cases hhttp : request.url.isHttp = true
  · rw [hhttp]
    refine ⟨trivial, fun response s' answer => ?_⟩
    cases response with
    | none => exact (sent none s' answer).1
    | some received => exact (sent (some received) s' answer).2 received rfl
  · rw [Bool.eq_false_iff.2 hhttp]
    exact unsent

theorem Keeps.of_yields {gets : α → σ → Prop} {exchange : Exchanging α}
    (h : service.Keeps fails gets exchange s)
    {result : Except ClientError α} (yields : exchange.run.Yields service.answers s result s') :
    (∀ value, result = .ok value → gets value s') ∧ ∀ e, result = .error e → fails s' := by
  have hends := h.obeys.ends_of_yields yields
  refine ⟨fun value hvalue => ?_, fun e he => ?_⟩
  · rw [hvalue] at hends
    exact hends
  · rw [he] at hends
    exact hends

/-- A request for an operation fails, or is answered with a success. -/
theorem keeps_request {client : Client} (hbase : client.baseUrl = publicUrl)
    (operation : Operation) {reader : ResultReader α} {gets : α × Option UInt32 → σ → Prop}
    (unsent : fails s)
    (sent : ∀ request response s', operation.Asks request → service.answers s request response s' →
      fails s' ∧ ∀ received value, response = some received → Carries reader received value →
        gets value s') :
    service.Keeps fails gets
      (client.request reader operation.method operation.path operation.query operation.body) s := by
  have hparse : service.Keeps fails
      (fun base s' => Url.parse (publicUrl ++ operation.path) = .ok base ∧ s' = s)
      (Client.lift (Http.url (client.baseUrl ++ operation.path))) s := by
    rw [hbase]
    generalize publicUrl ++ operation.path = text
    exact keeps_url unsent fun base hparse => ⟨hparse, rfl⟩
  have hsend (request : Http.Request) (asks : operation.Asks request) : service.Keeps fails
      (fun received s' => fails s' ∧ ∀ value, Carries reader received value → gets value s')
      (Client.lift (Http.send request)) s := by
    refine keeps_send unsent fun response s' answer => ?_
    obtain ⟨hfails, hgets⟩ := sent request response s' asks answer
    exact ⟨hfails, fun received hreceived => ⟨hfails, fun value => hgets received value hreceived⟩⟩
  rw [Client.request]
  refine Keeps.bind hparse fun base s' h => ?_
  obtain ⟨hurl, rfl⟩ := h
  refine Keeps.bind (hsend _ ⟨rfl, ⟨base, hurl, rfl⟩, rfl⟩) fun received s'' h => ?_
  obtain ⟨hfails, hgets⟩ := h
  cases henvelope : Envelope.ofResponse? reader received with
  | none => exact keeps_throw _ hfails
  | some envelope =>
    refine keeps_liftM hfails fun value hvalue => ?_
    exact hgets value ⟨envelope, henvelope, hvalue⟩

end Service

/-! ### A service with two records -/

namespace Pair

def address (changed : Bool) : String := if changed then "2.2.2.2" else "1.1.1.1"

def first (changed : Bool) : DnsRecord := ⟨"1", managedType, "a.dev", address changed⟩

def second (changed : Bool) : DnsRecord := ⟨"2", managedType, "b.a.dev", address changed⟩

def account (s : Bool × Bool) : Account :=
  ⟨[⟨"z", "a.dev"⟩], [⟨first s.1, "z", false⟩, ⟨second s.2, "z", false⟩]⟩

def written (record : DnsRecord) : Json :=
  Json.object [("id", .str record.id), ("type", .str record.type), ("name", .str record.name),
    ("content", .str record.content)]

def success (result : Json) (pages : Nat) : Option Http.Response :=
  let envelope := Json.object [("success", .bool true), ("result", result),
    ("result_info", Json.object [("total_pages", .int pages)])]
  some ⟨200, some (Utf8.encode envelope.compact)⟩

def found : Option Http.Response :=
  success (.arr [Json.object [("id", .str "z"), ("name", .str "a.dev")]]) 1

def listed (s : Bool × Bool) (query : Option String) : Option Http.Response :=
  if query = some "type=A&page=1&per_page=100" then success (.arr [written (first s.1)]) 2
  else if query = some "type=A&page=2&per_page=100" then success (.arr [written (second s.2)]) 2
  else none

def asked (body : Option Json) : Bool :=
  match body with
  | some (.obj [(_, .str content), (_, .bool proxied)]) => content == address true && !proxied
  | _ => false

def answer (request : Http.Request) (s : Bool × Bool) : Option Http.Response × (Bool × Bool) :=
  match request.method with
  | .get =>
    if request.url.path = "/client/v4/zones" then (found, s)
    else if request.url.path = "/client/v4/zones/z/dns_records" then
      (listed s request.url.query, s)
    else (none, s)
  | .patch =>
    if !asked request.body then (none, s)
    else if request.url.path = "/client/v4/zones/z/dns_records/1" then
      (success (written (first true)) 0, (true, s.2))
    else if request.url.path = "/client/v4/zones/z/dns_records/2" then
      (success (written (second true)) 0, (s.1, true))
    else (none, s)
  | .post => (none, s)

theorem result_of_carries {α : Type} {reader : ResultReader α} {response : Option Http.Response}
    {received : Http.Response} {value : α × Option UInt32} (hresponse : response = some received)
    (carries : Carries reader received value) {result : α} {total : Option Nat}
    (h : (response.bind (Envelope.ofResponse? reader)).map
      (fun envelope => (envelope.result, envelope.totalPages.map UInt32.toNat)) =
        some (some result, total)) :
    value.1 = result ∧ value.2.map UInt32.toNat = total := by
  obtain ⟨envelope, henvelope, hanswer⟩ := carries
  rw [hresponse, Option.bind_some, henvelope, Option.map_some, Option.some.injEq,
    Prod.mk.injEq] at h
  obtain ⟨hresult, htotal⟩ := h
  rw [Envelope.answer, hresult] at hanswer
  split at hanswer
  · rename_i hsome
    cases hsome
    cases hanswer
    exact ⟨rfl, htotal⟩
  · cases hanswer

theorem result_found : (found.bind (Envelope.ofResponse? .zones)).map
    (fun envelope => (envelope.result, envelope.totalPages.map UInt32.toNat)) =
      some (some [⟨"z", "a.dev"⟩], some 1) := by
  decide +kernel

theorem result_first (changed : Bool) : ((success (.arr [written (first changed)]) 2).bind
    (Envelope.ofResponse? .records)).map
    (fun envelope => (envelope.result, envelope.totalPages.map UInt32.toNat)) =
      some (some [first changed], some 2) := by
  revert changed
  decide +kernel

theorem result_second (changed : Bool) : ((success (.arr [written (second changed)]) 2).bind
    (Envelope.ofResponse? .records)).map
    (fun envelope => (envelope.result, envelope.totalPages.map UInt32.toNat)) =
      some (some [second changed], some 2) := by
  revert changed
  decide +kernel

theorem asked_body (content : String) (proxied : Bool) :
    asked (some (Json.object [("content", .str content), ("proxied", .bool proxied)])) =
      (content == address true && !proxied) := by
  have hbody : Json.object [("content", .str content), ("proxied", .bool proxied)] =
      .obj [("content", .str content), ("proxied", .bool proxied)] := by
    rw [Json.object, Json.Members.ofList, List.foldl_cons, List.foldl_cons, List.foldl_nil,
      Json.Members.insert, Json.Members.insert, if_neg (show ¬"proxied" = "content" by decide),
      if_neg (show ¬"proxied" < "content" by decide), Json.Members.insert]
  rw [hbody, asked]

theorem parse_zones : (Url.parse (publicUrl ++ "/zones")).toOption.map (·.path) =
    some "/client/v4/zones" := by
  decide +kernel

theorem parse_records : (Url.parse (publicUrl ++ ("/zones/" ++ "z" ++ "/dns_records"))).toOption.map
    (fun url => (url.path, url.query)) = some ("/client/v4/zones/z/dns_records", none) := by
  decide +kernel

theorem parse_change {record : String} (h : record = "1" ∨ record = "2") :
    (Url.parse (publicUrl ++ ("/zones/" ++ "z" ++ "/dns_records/" ++ record))).toOption.map
      (·.path) = some ("/client/v4/zones/z/dns_records/" ++ record) := by
  rcases h with rfl | rfl <;> decide +kernel

variable {request : Http.Request} {response : Option Http.Response} {s s' : Bool × Bool}

theorem answer_of_get (hmethod : request.method = .get) (h : answer request s = (response, s')) :
    s' = s := by
  rw [answer, hmethod] at h
  dsimp only at h
  split at h
  · cases h
    rfl
  · split at h <;> cases h <;> rfl

/-- What is asked goes to a URL that the text of the operation parses to. -/
theorem exists_base {operation : Operation} (asks : operation.Asks request) {α : Type}
    {f : Url → α} {found : α}
    (h : (Url.parse (publicUrl ++ operation.path)).toOption.map f = some found) :
    ∃ base, f base = found ∧ request.url =
      operation.query.foldl (fun url parameter => url.withParameter parameter.1 parameter.2) base := by
  obtain ⟨base, hparse, hurl⟩ := asks.url
  rw [hparse] at h
  exact ⟨base, Option.some.inj h, hurl⟩

theorem answer_of_zones {name : String} (asks : (Operation.zones name).Asks request)
    (h : answer request s = (response, s')) : response = found := by
  obtain ⟨base, hbase, hurl⟩ := exists_base asks parse_zones
  have hpath : request.url.path = "/client/v4/zones" := by
    rw [hurl]
    exact hbase
  rw [answer, show request.method = .get from asks.method] at h
  dsimp only at h
  rw [if_pos hpath] at h
  cases h
  rfl

theorem query_records {base : Url} (hquery : base.query = none) {page : Nat} (hpage : page < 2) :
    ((Operation.query (.records "z" (page + 1))).foldl
      (fun url parameter => url.withParameter parameter.1 parameter.2) base).query =
        some (if page = 0 then "type=A&page=1&per_page=100" else "type=A&page=2&per_page=100") := by
  simp only [Operation.query, List.foldl_cons, List.foldl_nil, Url.withParameter, hquery]
  clear hquery
  revert page
  decide +kernel

theorem answer_of_records {page : Nat} (hpage : page < 2)
    (asks : (Operation.records "z" (page + 1)).Asks request)
    (h : answer request s = (response, s')) :
    response = success (.arr [written (if page = 0 then first s.1 else second s.2)]) 2 := by
  obtain ⟨base, hbase, hurl⟩ := exists_base asks parse_records
  obtain ⟨hpath, hquery⟩ := Prod.mk.inj hbase
  have hpath' : request.url.path = "/client/v4/zones/z/dns_records" := by
    rw [hurl]
    exact hpath
  have hquery' := query_records hquery hpage
  rw [← hurl] at hquery'
  rw [answer, show request.method = .get from asks.method] at h
  dsimp only at h
  rw [if_neg (by rw [hpath']; decide), if_pos hpath', hquery'] at h
  cases h
  by_cases hfirst : page = 0
  · rw [if_pos hfirst, if_pos hfirst, listed, if_pos rfl]
  · rw [if_neg hfirst, if_neg hfirst, listed, if_neg (by decide), if_pos rfl]

theorem answer_of_change {record content : String} {proxied : Bool}
    (hrecord : record = "1" ∨ record = "2")
    (asks : (Operation.change "z" record content proxied).Asks request) {received : Http.Response}
    (h : answer request s = (some received, s')) :
    content = address true ∧ proxied = false ∧
      s' = if record = "1" then (true, s.2) else (s.1, true) := by
  obtain ⟨base, hbase, hurl⟩ := exists_base asks (parse_change hrecord)
  have hpath : request.url.path = "/client/v4/zones/z/dns_records/" ++ record := by
    rw [hurl]
    exact hbase
  rw [answer, show request.method = .patch from asks.method] at h
  dsimp only at h
  rw [show request.body = _ from asks.body, Operation.body, asked_body, hpath] at h
  split at h
  · cases h
  · rename_i hasked
    rw [Bool.not_eq_true', Bool.not_eq_false, Bool.and_eq_true, beq_iff_eq, Bool.not_eq_true'] at hasked
    refine ⟨hasked.1, hasked.2, ?_⟩
    rcases hrecord with rfl | rfl
    · rw [if_pos (by decide)] at h
      cases h
      rfl
    · rw [if_neg (by decide), if_pos (by decide)] at h
      cases h
      rfl

theorem mem_managed_account {zone : Zone} (hzone : zone ∈ (account s).zones) {record : HostedRecord}
    (h : record ∈ (account s).managed zone.id) :
    zone = ⟨"z", "a.dev"⟩ ∧ (record.id = "1" ∨ record.id = "2") := by
  obtain ⟨hrecord, -⟩ := Account.mem_managed.1 h
  refine ⟨List.mem_singleton.1 hzone, ?_⟩
  rcases List.mem_cons.1 hrecord with rfl | hrecord
  · exact .inl rfl
  · rw [List.mem_singleton.1 hrecord]
    exact .inr rfl

theorem change_account (s : Bool × Bool) {record : String} (h : record = "1" ∨ record = "2") :
    account (if record = "1" then (true, s.2) else (s.1, true)) =
      (account s).change "z" record (address true) false := by
  obtain ⟨a, b⟩ := s
  rcases h with rfl | rfl <;> cases a <;> cases b <;> decide +kernel

def service : Service (Bool × Bool) where
  account := account
  pages s _ := [[first s.1], [second s.2]]
  answers s request response s' := answer request s = (response, s')
  paged s zone hzone := by
    rw [List.mem_singleton.1 hzone]
    obtain ⟨a, b⟩ := s
    cases a <;> cases b <;> decide +kernel
  reads h hmethod := by
    rw [answer_of_get hmethod h]
    exact ⟨rfl, rfl⟩
  zones h asks carries zone hzone := by
    obtain ⟨hfound, -⟩ := result_of_carries (answer_of_zones asks h).symm carries result_found
    change zone ∈ [_]
    rw [← hfound]
    exact hzone
  records {s request response s' page batch total} h zone hzone asks hpage carries := by
    rw [List.mem_singleton.1 hzone] at asks
    have hlength : page < 2 := by
      rcases hpage with rfl | hpage
      · decide
      · exact hpage
    have hresponse := (answer_of_records hlength asks h).symm
    by_cases hfirst : page = 0
    · rw [if_pos hfirst] at hresponse
      obtain ⟨rfl, htotal⟩ := result_of_carries hresponse carries (result_first s.1)
      subst hfirst
      exact ⟨rfl, fun _ => htotal⟩
    · rw [if_neg hfirst] at hresponse
      obtain ⟨rfl, htotal⟩ := result_of_carries hresponse carries (result_second s.2)
      obtain rfl : page = 1 := by omega
      exact ⟨rfl, fun _ => htotal⟩
  changes {s request response s' content proxied result} h zone hzone record hrecord asks _ := by
    obtain ⟨rfl, hid⟩ := mem_managed_account hzone hrecord
    obtain ⟨rfl, rfl, rfl⟩ := answer_of_change hid asks h
    exact change_account s hid

end Pair

end DynamicDns.Cloudflare
