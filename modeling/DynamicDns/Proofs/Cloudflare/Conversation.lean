import DynamicDns.Proofs.Cloudflare.Service
import DynamicDns.Proofs.Url.Below

/-!
# Conversations

A conversation is what a client asks and what it is told, turn by turn. Nothing is assumed of who
answers: a response can be a failure, an envelope that does not fit, or missing. What an exchange
does is said of the turns it takes and of the result it comes to.
-/

namespace DynamicDns.Cloudflare

theorem Carries.unique {α : Type} {reader : ResultReader α} {response : Http.Response}
    {value value' : α × Option UInt32} (h : Carries reader response value)
    (h' : Carries reader response value') : value = value' := by
  obtain ⟨envelope, henvelope, hanswer⟩ := h
  obtain ⟨envelope', henvelope', hanswer'⟩ := h'
  rw [henvelope] at henvelope'
  cases henvelope'
  rw [hanswer] at hanswer'
  cases hanswer'
  rfl

/-! ### Turns -/

namespace Operation

def isLookup : Operation → Bool
  | .zones _ => true
  | _ => false

/-- Whether a request is what a client sends for an operation. -/
structure SentBy (client : Client) (operation : Operation) (request : Http.Request) : Prop where
  method : request.method = operation.method
  url : ∃ base, Url.parse (client.baseUrl ++ operation.path) = .ok base ∧ request.url =
    operation.query.foldl (fun url parameter => url.withParameter parameter.1 parameter.2) base
  headers : request.headers = client.headers
  body : request.body = operation.body

theorem SentBy.asks {client : Client} {operation : Operation} {request : Http.Request}
    (sent : operation.SentBy client request) (hbase : client.baseUrl = publicUrl) :
    operation.Asks request :=
  ⟨sent.method, hbase ▸ sent.url, sent.body⟩

def Accepts (operation : Operation) (response : Http.Response) : Prop :=
  match operation with
  | .zones _ => ∃ value, Carries .zones response value
  | .records _ _ => ∃ value, Carries .records response value
  | .change _ _ _ _ => ∃ value, Carries .anything response value

end Operation

/-- What was asked with which request, and the response, if there was any. -/
structure Turn where
  operation : Operation
  request : Http.Request
  response : Option Http.Response

abbrev Log := List (Http.Request × Option Http.Response)

namespace Turn

def heard (turn : Turn) : Http.Request × Option Http.Response := (turn.request, turn.response)

def Answered (turn : Turn) : Prop :=
  ∃ received, turn.response = some received ∧ turn.operation.Accepts received

def Resolves (turn : Turn) (name : String) (zone : Zone) : Prop :=
  turn.operation = .zones name ∧ ∃ received found total, turn.response = some received ∧
    Carries .zones received (found, total) ∧ found.find? (fun zone => zone.name == name) = some zone

theorem Resolves.answered {turn : Turn} {name : String} {zone : Zone} (h : turn.Resolves name zone) :
    turn.Answered := by
  obtain ⟨hoperation, received, found, total, hresponse, carries, -⟩ := h
  refine ⟨received, hresponse, ?_⟩
  rw [hoperation]
  exact ⟨_, carries⟩

theorem Resolves.name_eq {turn : Turn} {name : String} {zone : Zone} (h : turn.Resolves name zone) :
    zone.name = name := by
  obtain ⟨-, _, found, _, -, -, hfind⟩ := h
  simpa using List.find?_some hfind

end Turn

/-- Every request gets some answer. -/
def Overhears (log : Log) (request : Http.Request) (response : Option Http.Response) (log' : Log) :
    Prop :=
  log' = log ++ [(request, response)]

/-! ### Exchanges as conversations -/

namespace Client

variable {α β : Type}

/-- Whatever it is told, an exchange takes turns of the client and comes to a result as said. -/
structure Converses (client : Client) (exchange : Exchanging α)
    (tells : List Turn → Except ClientError α → Prop) : Prop where
  turns : ∀ {log result log'}, exchange.run.Yields Overhears log result log' →
    ∃ turns, log' = log ++ turns.map Turn.heard ∧
      (∀ turn ∈ turns, turn.operation.SentBy client turn.request) ∧ tells turns result

variable {client : Client} {tells tells' : List Turn → Except ClientError α → Prop}

theorem Converses.mono {exchange : Exchanging α} (h : client.Converses exchange tells)
    (weaker : ∀ turns result, tells turns result → tells' turns result) :
    client.Converses exchange tells' := by
  constructor
  intro log result log' yields
  obtain ⟨turns, hlog, sent, htells⟩ := h.turns yields
  exact ⟨turns, hlog, sent, weaker turns result htells⟩

theorem converses_done {result : Except ClientError α} (h : tells [] result) :
    client.Converses (ExceptT.mk (.done result)) tells := by
  constructor
  rintro log _ _ ⟨rfl, rfl⟩
  exact ⟨[], by simp, by simp, h⟩

theorem converses_pure {value : α} (h : tells [] (.ok value)) :
    client.Converses (pure value) tells :=
  converses_done h

theorem converses_throw {e : ClientError} (h : tells [] (.error e)) :
    client.Converses (throw e) tells :=
  converses_done h

theorem converses_liftM {result : Except ClientError α} (h : tells [] result) :
    client.Converses (liftM (m := Except ClientError) result) tells := by
  cases result <;> exact converses_done h

theorem Converses.bind {exchange : Exchanging α} {f : α → Exchanging β}
    {ends : List Turn → Except ClientError β → Prop} (first : client.Converses exchange tells)
    (second : ∀ before value, tells before (.ok value) →
      client.Converses (f value) fun after result => ends (before ++ after) result)
    (failed : ∀ turns e, tells turns (.error e) → ends turns (.error e)) :
    client.Converses (exchange >>= f) ends := by
  constructor
  intro log result log' yields
  rw [Exchanging.run_bind, Program.yields_bind] at yields
  obtain ⟨found, mid, yields, rest⟩ := yields
  obtain ⟨before, rfl, sent, htells⟩ := first.turns yields
  cases found with
  | error e =>
    obtain ⟨rfl, rfl⟩ := rest
    exact ⟨before, rfl, sent, failed before e htells⟩
  | ok value =>
    obtain ⟨after, rfl, sent', hends⟩ := (second before value htells).turns rest
    refine ⟨before ++ after, by simp, ?_, hends⟩
    intro turn hturn
    exact (List.mem_append.1 hturn).elim (sent turn) (sent' turn)

theorem converses_tryCatch {exchange : Exchanging α} {handler : ClientError → Exchanging α}
    {ends : List Turn → Except ClientError α → Prop} (first : client.Converses exchange tells)
    (caught : ∀ before e, tells before (.error e) →
      client.Converses (handler e) fun after result => ends (before ++ after) result)
    (kept : ∀ turns value, tells turns (.ok value) → ends turns (.ok value)) :
    client.Converses (tryCatch exchange handler) ends := by
  constructor
  intro log result log' yields
  rw [Exchanging.run_tryCatch, Program.yields_bind] at yields
  obtain ⟨found, mid, yields, rest⟩ := yields
  obtain ⟨before, rfl, sent, htells⟩ := first.turns yields
  cases found with
  | ok value =>
    obtain ⟨rfl, rfl⟩ := rest
    exact ⟨before, rfl, sent, kept before value htells⟩
  | error e =>
    obtain ⟨after, rfl, sent', hends⟩ := (caught before e htells).turns rest
    refine ⟨before ++ after, by simp, ?_, hends⟩
    intro turn hturn
    exact (List.mem_append.1 hturn).elim (sent turn) (sent' turn)

/-! ### Requests -/

def Reaches (client : Client) (path : String) : Prop :=
  ∃ url, Url.parse (client.baseUrl ++ path) = .ok url ∧ url.isHttp = true

/-- A client that can look up zones can ask for whatever is below them. -/
theorem Reaches.below (h : client.Reaches "/zones") (more : String) :
    client.Reaches ("/zones/" ++ more) := by
  obtain ⟨url, hparse, hhttp⟩ := h
  have hends : (client.baseUrl ++ "/zones").toList =
      (client.baseUrl.toList ++ "/zone".toList) ++ ['s'] := by
    rw [String.toList_append, List.append_assoc]
    rfl
  obtain ⟨url', hparse', hscheme⟩ := Url.parse_append hends (by decide) hparse hhttp more
  refine ⟨url', ?_, ?_⟩
  · rw [← hparse', String.append_assoc, show "/zones/" ++ more = "/zones" ++ ("/" ++ more) by
      rw [← String.append_assoc]
      rfl]
  · rw [Url.isHttp, hscheme]
    exact hhttp

def Told (reader : ResultReader α) (response : Option Http.Response)
    (result : Except ClientError (α × Option UInt32)) : Prop :=
  ∀ value, result = .ok value ↔ ∃ received, response = some received ∧ Carries reader received value

theorem converses_url {text : String} {tells : List Turn → Except ClientError Url → Prop}
    (parsed : ∀ url, Url.parse text = .ok url → tells [] (.ok url))
    (failed : ∀ e, (∀ url, Url.parse text ≠ .ok url) → tells [] (.error e)) :
    client.Converses (lift (Http.url text)) tells := by
  rw [Http.url]
  cases hparse : Url.parse text with
  | ok url => exact converses_done (parsed url hparse)
  | error fault => exact converses_done (failed _ (by simp [hparse]))

theorem isHttp_withParameters (base : Url) (query : List (String × String)) :
    (query.foldl (fun url parameter => url.withParameter parameter.1 parameter.2) base).isHttp =
      base.isHttp := by
  induction query generalizing base with
  | nil => rfl
  | cons parameter query ih => exact ih _

theorem converses_send {operation : Operation} {request : Http.Request}
    (hsent : operation.SentBy client request)
    {tells : List Turn → Except ClientError Http.Response → Prop}
    (unsent : ∀ e, request.url.isHttp = false → tells [] (.error e))
    (failed : ∀ e, request.url.isHttp = true → tells [⟨operation, request, none⟩] (.error e))
    (answered : ∀ received, request.url.isHttp = true →
      tells [⟨operation, request, some received⟩] (.ok received)) :
    client.Converses (lift (Http.send request)) tells := by
  cases hhttp : request.url.isHttp with
  | false =>
    have hrun : lift (Http.send request) = ExceptT.mk (.done (.error (.http .builder))) := by
      simp [Http.send, hhttp]
      rfl
    rw [hrun]
    exact converses_done (unsent _ hhttp)
  | true =>
    constructor
    intro log result log' yields
    have hrun : (lift (Http.send request)).run = .call request fun response =>
        response.elim (.done (.error (.http .request))) fun received => .done (.ok received) := by
      simp only [lift, Http.send, hhttp]
      change Program.call _ _ = _
      congr 1
      funext response
      cases response <;> rfl
    rw [hrun] at yields
    obtain ⟨response, after, rfl, yields⟩ := yields
    cases response with
    | none =>
      obtain ⟨rfl, rfl⟩ := yields
      exact ⟨[⟨operation, request, none⟩], rfl, by simpa using hsent, failed _ hhttp⟩
    | some received =>
      obtain ⟨rfl, rfl⟩ := yields
      exact ⟨[⟨operation, request, some received⟩], rfl, by simpa using hsent,
        answered received hhttp⟩

/-- A request is not sent if there is no URL for it, and else it is one turn. -/
theorem converses_request (operation : Operation) {reader : ResultReader α}
    {tells : List Turn → Except ClientError (α × Option UInt32) → Prop}
    (unsent : ∀ e, ¬client.Reaches operation.path → tells [] (.error e))
    (sent : ∀ request response result, client.Reaches operation.path →
      Told reader response result → tells [⟨operation, request, response⟩] result) :
    client.Converses
      (client.request reader operation.method operation.path operation.query operation.body)
      tells := by
  have hurl : client.Converses (lift (Http.url (client.baseUrl ++ operation.path)))
      fun turns result => turns = [] ∧ ∀ url,
        Url.parse (client.baseUrl ++ operation.path) = .ok url ↔ result = .ok url := by
    apply converses_url
    · intro url hparse
      simp [hparse]
    · intro e hparse
      simpa using hparse
  have hsend (base : Url) (hparse : Url.parse (client.baseUrl ++ operation.path) = .ok base) :
      client.Converses (lift (Http.send ⟨operation.method, operation.query.foldl
        (fun url parameter => url.withParameter parameter.1 parameter.2) base, client.headers,
          operation.body⟩))
      fun turns result => (turns = [] ∧ ¬client.Reaches operation.path ∧ ∃ e, result = .error e) ∨
        ∃ request response, turns = [⟨operation, request, response⟩] ∧
          client.Reaches operation.path ∧ ∀ received, result = .ok received ↔ response = some received := by
    refine converses_send ⟨rfl, ⟨base, hparse, rfl⟩, rfl, rfl⟩ ?_ ?_ ?_
    · intro e hhttp
      rw [isHttp_withParameters] at hhttp
      refine .inl ⟨rfl, ?_, e, rfl⟩
      rintro ⟨url, hurl, hhttp'⟩
      cases hparse.symm.trans hurl
      simp [hhttp] at hhttp'
    · intro e hhttp
      rw [isHttp_withParameters] at hhttp
      exact .inr ⟨_, none, rfl, ⟨base, hparse, hhttp⟩, by simp⟩
    · intro received hhttp
      rw [isHttp_withParameters] at hhttp
      exact .inr ⟨_, some received, rfl, ⟨base, hparse, hhttp⟩, by simp⟩
  rw [Client.request]
  refine Converses.bind hurl ?_ ?_
  · rintro _ base ⟨rfl, hbase⟩
    refine Converses.bind (hsend base ((hbase base).2 rfl)) ?_ ?_
    · rintro _ received (⟨-, -, e, h⟩ | ⟨request, response, rfl, reaches, hresponse⟩)
      · cases h
      · obtain rfl := (hresponse received).1 rfl
        have told {result : Except ClientError (α × Option UInt32)}
            (h : ∀ value, result = .ok value ↔ Carries reader received value) :
            tells [⟨operation, request, some received⟩] result := by
          apply sent request _ result reaches
          intro value
          simp [h]
        cases henvelope : Envelope.ofResponse? reader received with
        | none =>
          apply converses_throw
          apply told
          simp [Carries, henvelope]
        | some envelope =>
          apply converses_liftM
          apply told
          simp [Carries, henvelope]
    · rintro _ e (⟨rfl, unreached, -⟩ | ⟨request, response, rfl, reaches, hresponse⟩)
      · exact unsent e unreached
      · apply sent request response _ reaches
        intro value
        cases response with
        | none => simp
        | some received => simpa using hresponse received
  · rintro _ e ⟨rfl, hbase⟩
    refine unsent e ?_
    rintro ⟨url, hparse, -⟩
    cases (hbase url).1 hparse

end Client

end DynamicDns.Cloudflare
