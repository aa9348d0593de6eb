import DynamicDns.Proofs.Ip
import DynamicDns.PublicIp

/-!
# The search for the public address

Services are asked one after the other, and the first response that states an address ends the search.
In which order that is done is settled beforehand by the pool, the preferred service and the shuffle.
Whatever is answered, a search makes attempts along this order until one of them states an address, or
until the order is at its end (`search_concludes`). A service that is no URL, or one of a scheme that
cannot be asked, is passed over, and nothing is heard of it. All this is so for any reader of URLs; it
is only relied on that a text with nothing in it is no URL.
-/

namespace DynamicDns.PublicIp

variable (read : String → Except Url.Fault Url)

/-! ### The order -/

/-- The preferred service without the blanks around it, if that is a URL. -/
def lead? (preferred : Option String) : Option String :=
  (preferred.map trimBlanks).filter fun url => (read url).isOk

/-- Blanks alone are no URL, so they are set aside with all else that is none. -/
theorem preferredUrl?_usable (empty : (read "").isOk = false) (preferred : Option String) :
    preferredUrl? (usable read preferred) = lead? read preferred := by
  cases preferred with
  | none => rfl
  | some url =>
    rw [preferredUrl?, usable, lead?, Option.map_some]
    cases hread : (read (trimBlanks url)).isOk with
    | false => simp [Option.filter, hread]
    | true =>
      have hne : trimBlanks url ≠ "" := by
        intro hempty
        rw [hempty, empty] at hread
        cases hread
      simp [Option.filter, hread, hne]

/-! ### Attempts -/

def request? (service : String) : Option Http.Request :=
  match read service with
  | .ok url => if url.isHttp then some ⟨.get, url, [], none⟩ else none
  | .error _ => none

def stated? (response : Http.Response) : Option IpAddress :=
  if response.isSuccess then response.text?.bind fun body => IpAddress.parse? (trimBlanks body)
  else none

def verdict (service : String) : Option Http.Response → Except DiscoveryError String
  | none => .error (.request service)
  | some response =>
    if !response.isSuccess then .error (.unexpectedStatus service response.status)
    else
      match response.text? with
      | none => .error (.request service)
      | some body =>
        match IpAddress.parse? (trimBlanks body) with
        | some address => .ok address.text
        | none => .error (.invalidResponse service (trimBlanks body))

theorem toOption_verdict (service : String) (answer : Option Http.Response) :
    (verdict service answer).toOption = (answer.bind stated?).map IpAddress.text := by
  cases answer with
  | none => rfl
  | some response =>
    rw [verdict, Option.bind_some, stated?]
    cases response.isSuccess with
    | false => rfl
    | true =>
      cases response.text? with
      | none => rfl
      | some body => cases hparse : IpAddress.parse? (trimBlanks body) <;> simp [hparse] <;> rfl

section

variable {read} {service : String}

theorem fetch_of_none (h : request? read service = none) :
    (fetch read service).run = .done (.error (.request service)) := by
  rw [request?] at h
  rw [fetch]
  cases hurl : read service with
  | error fault => rfl
  | ok url =>
    have hhttp : url.isHttp = false := by simpa [hurl] using h
    simp only [Http.send, hhttp]
    rfl

theorem fetch_of_some {request : Http.Request} (h : request? read service = some request) :
    (fetch read service).run = .call request fun answer => .done (verdict service answer) := by
  rw [request?] at h
  rw [fetch]
  cases hurl : read service with
  | error fault =>
    rw [hurl] at h
    cases h
  | ok url =>
    obtain ⟨hhttp, rfl⟩ : url.isHttp = true ∧ (⟨.get, url, [], none⟩ : Http.Request) = request := by
      simpa [hurl] using h
    simp only [Http.send, hhttp]
    refine congrArg (Program.call _) (funext fun answer => ?_)
    cases answer with
    | none => rfl
    | some response =>
      change (ite ((!response.isSuccess) = true) _ _ : ExceptT _ Http.Exchange String) = _
      rw [verdict]
      cases response.isSuccess with
      | false => rfl
      | true =>
        cases response.text? with
        | none => rfl
        | some body =>
          simp only [Bool.not_true, Bool.false_eq_true, if_false]
          cases IpAddress.parse? (trimBlanks body) with
          | none => rfl
          | some address => rfl

end

/-! ### The search -/

abbrev Log := List (Http.Request × Option Http.Response)

/-- Answers a request in view of all that was asked before, and keeps it. -/
def overheard (answers : Log → Http.Request → Option Http.Response) (request : Http.Request)
    (log : Log) : Option Http.Response × Log :=
  (answers log request, log ++ [(request, answers log request)])

structure Attempt where
  service : String
  answer : Option Http.Response

namespace Attempt

def heard (attempt : Attempt) : Log :=
  (request? read attempt.service).toList.map fun request => (request, attempt.answer)

def address? (attempt : Attempt) : Option IpAddress :=
  (request? read attempt.service).bind fun _ => attempt.answer.bind stated?

/-- The standard text of an address that was brought up is a spelling of it. -/
theorem parse?_text {attempt : Attempt} {address : IpAddress}
    (h : attempt.address? read = some address) :
    IpAddress.parse? address.text = some address := by
  obtain ⟨request, -, h⟩ := Option.bind_eq_some_iff.1 h
  obtain ⟨response, -, h⟩ := Option.bind_eq_some_iff.1 h
  rw [stated?] at h
  split at h
  · obtain ⟨body, -, hparse⟩ := Option.bind_eq_some_iff.1 h
    exact IpAddress.parse?_text hparse
  · cases h

end Attempt

/-- What a search along an order comes to, and by which attempts. -/
inductive Concludes (order : List String) :
    List Attempt → Except DiscoveryError String → Prop where
  | found {earlier : List Attempt} {last : Attempt} {address : IpAddress}
      (tried : (earlier ++ [last]).map Attempt.service <+: order)
      (failed : ∀ attempt ∈ earlier, attempt.address? read = none)
      (stated : last.address? read = some address)
      (standard : IpAddress.parse? address.text = some address) :
      Concludes order (earlier ++ [last]) (.ok address.text)
  | exhausted {attempts : List Attempt} (tried : attempts.map Attempt.service = order)
      (failed : ∀ attempt ∈ attempts, attempt.address? read = none) :
      Concludes order attempts (.error .exhausted)

/-- A service that failed is followed by the others. -/
theorem Concludes.cons {order : List String} {attempts : List Attempt}
    {result : Except DiscoveryError String} (h : Concludes read order attempts result)
    {attempt : Attempt} (failed : attempt.address? read = none) :
    Concludes read (attempt.service :: order) (attempt :: attempts) result := by
  cases h with
  | @found earlier last address tried failed' stated standard =>
    have tried' : (attempt :: earlier ++ [last]).map Attempt.service <+: attempt.service :: order :=
      List.cons_prefix_cons.2 ⟨rfl, tried⟩
    exact .found tried' (List.forall_mem_cons.2 ⟨failed, failed'⟩) stated standard
  | exhausted tried failed' =>
    refine .exhausted ?_ (List.forall_mem_cons.2 ⟨failed, failed'⟩)
    rw [List.map_cons, tried]

variable (answers : Log → Http.Request → Option Http.Response)

theorem run_fetch (service : String) (log : Log) :
    ∃ attempt : Attempt, attempt.service = service ∧
      ((fetch read service).run.run (overheard answers) log).2 = log ++ attempt.heard read ∧
      ((fetch read service).run.run (overheard answers) log).1.toOption =
        (attempt.address? read).map IpAddress.text := by
  cases hrequest : request? read service with
  | none =>
    refine ⟨⟨service, none⟩, rfl, ?_, ?_⟩
    · rw [fetch_of_none hrequest, Attempt.heard, hrequest]
      exact (List.append_nil log).symm
    · rw [fetch_of_none hrequest, Attempt.address?, hrequest]
      rfl
  | some request =>
    refine ⟨⟨service, answers log request⟩, rfl, ?_, ?_⟩
    · rw [fetch_of_some hrequest, Attempt.heard, hrequest]
      rfl
    · rw [fetch_of_some hrequest, Attempt.address?, hrequest]
      exact toOption_verdict service (answers log request)

/-- A search along an order makes attempts until one brings up an address. -/
theorem firstAnswer_concludes (order : List String) (log : Log) :
    ∃ attempts : List Attempt,
      ((firstAnswer read order).run.run (overheard answers) log).2 =
        log ++ attempts.flatMap (Attempt.heard read) ∧
      Concludes read order attempts
        ((firstAnswer read order).run.run (overheard answers) log).1 := by
  induction order generalizing log with
  | nil => exact ⟨[], (List.append_nil log).symm, .exhausted rfl (by simp)⟩
  | cons service rest ih =>
    obtain ⟨attempt, rfl, hlog, hresult⟩ := run_fetch read answers service log
    have hrun : (firstAnswer read (attempt.service :: rest)).run =
        (fetch read attempt.service).run >>= fun result =>
          match result with
          | .ok text => pure (.ok text)
          | .error _ => (firstAnswer read rest).run := by
      rw [firstAnswer]
      refine congrArg ((fetch read attempt.service).run >>= ·) (funext fun result => ?_)
      cases result <;> rfl
    rw [hrun, Program.run_bind, hlog]
    cases hfetch : ((fetch read attempt.service).run.run (overheard answers) log).1 with
    | ok text =>
      rw [hfetch] at hresult
      obtain ⟨address, stated, rfl⟩ := Option.map_eq_some_iff.1 hresult.symm
      have tried : ([] ++ [attempt]).map Attempt.service <+: attempt.service :: rest :=
        List.prefix_append [attempt.service] rest
      refine ⟨[attempt], ?_, .found tried (by simp) stated (Attempt.parse?_text read stated)⟩
      simp [pure, Program.run]
    | error e =>
      rw [hfetch] at hresult
      have failed : attempt.address? read = none := Option.map_eq_none_iff.1 hresult.symm
      obtain ⟨attempts, hlog', concludes⟩ := ih (log ++ attempt.heard read)
      refine ⟨attempt :: attempts, ?_, concludes.cons read failed⟩
      rw [hlog', List.flatMap_cons, List.append_assoc]

/-- A search asks the preferred service first, if it is a URL, and then the other services of the pool
in an order that the shuffle makes. It ends with the first address that is stated, in its standard text,
and fails if and only if there is none. -/
theorem search_concludes (empty : (read "").isOk = false) (shuffle : List String → List String)
    (fair : ∀ services, (shuffle services).Perm services) (pool : List String)
    (preferred : Option String) :
    ∃ others : List String,
      others.Perm (pool.filter fun url => url ≠ "" ∧ some url ≠ lead? read preferred) ∧
      ∀ (answers : Log → Http.Request → Option Http.Response) (log : Log),
        let (result, log') := (search read shuffle pool preferred).run.run (overheard answers) log
        ∃ attempts : List Attempt, log' = log ++ attempts.flatMap (Attempt.heard read) ∧
          Concludes read ((lead? read preferred).toList ++ others) attempts result := by
  refine ⟨shuffle (fallbacks (usable read preferred) pool), ?_, fun answers log => ?_⟩
  · rw [← preferredUrl?_usable read empty]
    exact fair _
  · rw [← preferredUrl?_usable read empty]
    exact firstAnswer_concludes read answers _ log

def corner : List String :=
  ["https://icanhazip.com", "", "ftp://example.com", "https://icanhazip.com", "http://example.com/ip"]

def faltering (log : Log) (_ : Http.Request) : Option Http.Response :=
  match log.length with
  | 0 => none
  | 1 => some ⟨503, some (Utf8.encode "192.0.2.1")⟩
  | _ => some ⟨200, some (Utf8.encode " 2001:DB8:0:0::0007\n")⟩

/-- The preferred service is asked first, though it is of the pool, and then the pool from its end on. -/
theorem search_concludes_in_reverse :
    let search := discover List.reverse corner (some " http://example.com/ip ")
    let (result, log) := search.run.run (overheard faltering) []
    (Url.parse "").isOk = false ∧ (∀ services : List String, services.reverse.Perm services) ∧
      result.toOption = some "2001:db8::7" ∧
      ∃ others : List String, others.Perm
          ["https://icanhazip.com", "ftp://example.com", "https://icanhazip.com"] ∧
        ∃ attempts : List Attempt, log = attempts.flatMap (Attempt.heard Url.parse) ∧
          Concludes Url.parse ("http://example.com/ip" :: others) attempts result := by
  intro search
  have empty : (Url.parse "").isOk = false := rfl
  have fair (services : List String) : services.reverse.Perm services := List.reverse_perm services
  have hlead : lead? Url.parse (some " http://example.com/ip ") = some "http://example.com/ip" := by
    decide +kernel
  have hresult : (search.run.run (overheard faltering) []).1.toOption = some "2001:db8::7" := by
    decide +kernel
  obtain ⟨others, hperm, concludes⟩ :=
    search_concludes Url.parse empty List.reverse fair corner (some " http://example.com/ip ")
  obtain ⟨attempts, hlog, h⟩ := concludes faltering []
  rw [hlead] at hperm h
  exact ⟨empty, fair, hresult, others, hperm, attempts, hlog, h⟩

end DynamicDns.PublicIp
