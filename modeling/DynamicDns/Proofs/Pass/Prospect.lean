import DynamicDns.Proofs.Pass.Held
import DynamicDns.Proofs.Run.Upkeep

/-!
# A provider pass that is repeated

As long as discovery, lookups, the building of clients and their accounts answer as ever, it is settled
beforehand where a pass over a provider ends and what it has found by then (`Prospect.of`). The pass
leaves behind a provider that shows this, and sends nothing if the provider showed it before. An
account serves the address that it last accepted, so once one was pushed the next pass finds it served;
every other pass has the same prospect as the one before (`Prospect.rest`). Hence the second of two
passes writes nothing, wherever the first one ended (`second_pass_writes_nothing`).
-/

namespace DynamicDns

variable {δ κ : Type}

namespace Pass

def pushes (past : List (Answered δ κ)) : List (String × Bool) :=
  past.filterMap fun
    | ⟨.setIp _ ip, reply⟩ => some (ip, reply.isOk)
    | _ => none

theorem pushes_append (past later : List (Answered δ κ)) :
    pushes (past ++ later) = pushes past ++ pushes later :=
  List.filterMap_append

def accepted? (past : List (Answered δ κ)) : Option String :=
  ((pushes past).filter (·.2)).getLast?.map (·.1)

/-- The answers that are as ever, except that an account serves what it last accepted. -/
def foreseen (steady : (call : Call δ κ) → call.Reply) (past : List (Answered δ κ)) :
    (call : Call δ κ) → call.Reply
  | .getIp client => (accepted? past).elim (steady (.getIp client)) .ok
  | call => steady call

end Pass

/-- A call is answered by a store that refuses nothing, and by all others as was to be foreseen. -/
def Trail.Echoes (scope : Option String) (steady : (call : Call δ κ) → call.Reply)
    (past : List (Answered δ κ)) (trail : Trail δ κ) (call : Call δ κ) (reply : call.Reply)
    (trail' : Trail δ κ) : Prop :=
  ∃ outside : (call : Call δ κ) → call.Reply,
    (∀ call, call.consults = true →
      outside call = Pass.foreseen steady (past ++ trail.calls) call) ∧
      trail.answer scope none outside call = (reply, trail')

namespace Pass

/-- Where a pass over a provider ends, with what it has found by then. -/
inductive Prospect where
  | undiscovered
  | locked (ip : String) (e : LookupError)
  | unequipped (ip : String) (e : LookupError)
  | unbuilt (ip : String) (e : ClientError)
  | unread (ip : String)
  | agreed (ip : String)
  | refused (ip served : String)
  | pushed (ip served : String)

namespace Prospect

def ofClient (answers : (call : Call δ κ) → call.Reply) (ip : String) (client : δ) : Prospect :=
  match answers (.getIp client) with
  | .error _ => .unread ip
  | .ok served =>
    if ip = served then .agreed ip
    else match answers (.setIp client ip) with
      | .error _ => .refused ip served
      | .ok () => .pushed ip served

/-- Where a pass over a provider ends, as all others than the store will answer. -/
def of (answers : (call : Call δ κ) → call.Reply) (r : Provider) : Prospect :=
  let discovered : Except DiscoveryError String := answers (.publicIp r.spec.customIpProvider)
  match discovered with
  | .error _ => .undiscovered
  | .ok ip =>
    let unlocked : Except LookupError Secret := answers (.getSecret r.secretKey)
    match unlocked with
    | .error e => .locked ip e
    | .ok secret =>
      let equipped : Except LookupError ConfigMap := answers (.getConfigMap r.configMapKey)
      match equipped with
      | .error e => .unequipped ip e
      | .ok configMap =>
        let created : Except ClientError δ := answers (.createClient r.spec.name secret configMap)
        match created with
        | .error e => .unbuilt ip e
        | .ok client => ofClient answers ip client

theorem ofClient_of_served {answers : (call : Call δ κ) → call.Reply} {ip served : String}
    {client : δ} (h : answers (.getIp client) = .ok served) :
    ofClient answers ip client =
      if ip = served then .agreed ip
      else match answers (.setIp client ip) with
        | .error _ => .refused ip served
        | .ok () => .pushed ip served := by
  rw [ofClient, h]

def succeeds : Prospect → Bool
  | agreed _ | pushed _ _ => true
  | _ => false

def pushes : Prospect → List (String × Bool)
  | refused ip _ => [(ip, false)]
  | pushed ip _ => [(ip, true)]
  | _ => []

def rest : Prospect → Prospect
  | pushed ip _ => agreed ip
  | prospect => prospect

def Shows : Prospect → Provider → Prop
  | undiscovered, _ => True
  | locked ip e, r => r.statusOrInitial.publicIp = ip ∧
    r.Reports Condition.typeSecret (fails Wording.secretFound e.text)
  | unequipped ip e, r => (r.statusOrInitial.publicIp = ip ∧ r.Unlocked) ∧
    r.Reports Condition.typeConfigMap (fails Wording.configMapFound e.text)
  | unbuilt ip e, r => r.Supplied ip ∧ r.Reports Condition.typeClient
    (fails Wording.clientCreated (Wording.creationFailed e.text))
  | unread ip, r => r.Connected ip
  | refused ip served, r => r.Connected ip ∧ r.statusOrInitial.providerIp = served
  | agreed ip, r | pushed ip _, r => r.Settled ip

variable {prospect : Prospect}

theorem shows_rest (r : Provider) : prospect.rest.Shows r ↔ prospect.Shows r := by
  cases prospect <;> rfl

theorem succeeds_rest : prospect.rest.succeeds = prospect.succeeds := by
  cases prospect <;> rfl

theorem rest_rest : prospect.rest.rest = prospect.rest := by
  cases prospect <;> rfl

/-- What the next pass pushes was refused before. -/
theorem refused_of_mem_pushes_rest {entry : String × Bool} (h : entry ∈ prospect.rest.pushes) :
    entry.2 = false ∧ entry ∈ prospect.pushes := by
  cases prospect with
  | refused ip served =>
    obtain rfl := List.mem_singleton.1 h
    exact ⟨rfl, h⟩
  | _ => cases h

theorem Shows.congr {r r' : Provider} (h : prospect.Shows r) (generation : r'.generation = r.generation)
    (spec : r'.spec = r.spec) (status : r'.statusOrInitial = r.statusOrInitial) :
    prospect.Shows r' := by
  cases prospect with
  | undiscovered => trivial
  | locked => exact ⟨status ▸ h.1, h.2.congr generation status⟩
  | unequipped =>
    exact ⟨⟨status ▸ h.1.1, h.1.2.congr generation spec status⟩, h.2.congr generation status⟩
  | unbuilt =>
    obtain ⟨⟨⟨publicIp, unlocked⟩, equipped⟩, told⟩ := h
    exact ⟨⟨⟨status ▸ publicIp, unlocked.congr generation spec status⟩,
      equipped.congr generation spec status⟩, told.congr generation status⟩
  | unread => exact Provider.Connected.congr h generation spec status
  | refused => exact ⟨h.1.congr generation spec status, status ▸ h.2⟩
  | agreed | pushed => exact Provider.Settled.congr h generation spec status

/-! ### What a pass comes to -/

open Trail (Held Met Unrefused)

structure Leaves (key : ObjectKey) (origin : Provider) (prospect : Prospect) (trail : Trail δ κ) :
    Prop where
  stored : ∃ r : Provider, trail.cluster.Holds key r ∧ Resembles origin r ∧ prospect.Shows r
  idle : prospect.rest = prospect → prospect.Shows origin → trail.patches = 0
  pushes : Pass.pushes trail.calls = prospect.pushes

variable {scope : Option String} {steady : (call : Call δ κ) → call.Reply}
  {past asked : List (Answered δ κ)} {key : ObjectKey} {origin r : Provider}
  {trail trail' : Trail δ κ} {call : Call δ κ} {reply : call.Reply} {sent : Nat}

def Ends (steady : (call : Call δ κ) → call.Reply) (past : List (Answered δ κ)) (key : ObjectKey)
    (origin : Provider) (succeeds : Bool) (trail : Trail δ κ) : Prop :=
  (Prospect.of (foreseen steady past) origin).succeeds = succeeds ∧
    Leaves key origin (Prospect.of (foreseen steady past) origin) trail

def rules (scope : Option String) (steady : (call : Call δ κ) → call.Reply)
    (past : List (Answered δ κ)) (key : ObjectKey) (origin : Provider) :
    Program.Rules (@Call.Reply δ κ) (Trail δ κ) where
  allows _ _ := True
  answers := Trail.Echoes scope steady past
  fails := Ends steady past key origin false

theorem pushes_of_held (held : Held key asked sent r trail) :
    Pass.pushes trail.calls = Pass.pushes asked := by
  rw [← held.asked, Pass.pushes, Pass.pushes, List.filterMap_filter]
  refine List.filterMap_congr fun answered _ => ?_
  obtain ⟨call, reply⟩ := answered
  cases call <;> rfl

theorem foreseen_append {later : List (Answered δ κ)}
    (unaccepted : ∀ entry ∈ Pass.pushes later, entry.2 = false) :
    foreseen steady (past ++ later) = foreseen steady past := by
  have hlater : (Pass.pushes later).filter (·.2) = [] :=
    List.filter_eq_nil_iff.2 fun entry hentry => by simp [unaccepted entry hentry]
  have haccepted : accepted? (past ++ later) = accepted? past := by
    rw [accepted?, pushes_append, List.filter_append, hlater, List.append_nil, accepted?]
  funext call
  cases call with
  | getIp client => exact congrArg (fun ip => Option.elim ip _ _) haccepted
  | _ => rfl

/-- What is asked for before anything was pushed is answered as it was to be foreseen. -/
theorem asks (held : Held key asked sent r trail) (unpushed : Pass.pushes asked = [])
    (echoes : trail.Echoes scope steady past call reply trail') (consults : call.consults = true) :
    foreseen steady past call = reply ∧ Held key (asked ++ [⟨call, reply⟩]) sent r trail' := by
  obtain ⟨outside, agrees, hanswer⟩ := echoes
  obtain ⟨hreply, held'⟩ := held.asks hanswer consults
  refine ⟨?_, held'⟩
  have hnone : Pass.pushes trail.calls = [] := (pushes_of_held held).trans unpushed
  rw [hreply, agrees call consults, foreseen_append fun entry hentry => ?_]
  rw [hnone] at hentry
  cases hentry

theorem unrefused : Unrefused scope (rules scope steady past key origin) where
  allowed _ _ := trivial
  answered _ _ _ _ := fun ⟨outside, _, hanswer⟩ => ⟨outside, hanswer⟩

theorem meets (held : Held key asked sent r trail) (unpushed : Pass.pushes asked = [])
    (consults : call.consults = true) :
    ∀ reply trail', trail.Echoes scope steady past call reply trail' →
      Met (foreseen steady past) key asked call reply sent r trail' :=
  fun _ _ echoes => asks held unpushed echoes consults

/-- A pass that has not pushed anything, or in vain, ends. -/
theorem ends_of_settles {succeeds : Bool}
    (hprospect : Prospect.of (foreseen steady past) origin = prospect)
    (hsucceeds : prospect.succeeds = succeeds) (settles : origin.Settles prospect.Shows sent r)
    (held : Held key asked sent r trail) (pushed : Pass.pushes asked = prospect.pushes) :
    Ends steady past key origin succeeds trail := by
  subst hprospect
  refine ⟨hsucceeds, ⟨r, held.holds, ⟨settles.metadata, settles.spec⟩, settles.reached⟩, ?_, ?_⟩
  · exact fun _ before => held.sent.trans (settles.idle before).1
  · exact (pushes_of_held held).trans pushed

/-- The end of a pass over a provider whose account serves the public address. -/
theorem keeps_finish {ip : String}
    (hprospect : Prospect.of (foreseen steady past) origin = prospect)
    (hsucceeds : prospect.succeeds = true) (hshows : prospect.Shows = Provider.Settled ip)
    (resembles : Resembles origin r) (connected : r.Connected ip)
    (providerIp : r.statusOrInitial.providerIp = ip)
    (idle : prospect.rest = prospect → origin.Settled ip →
      sent = 0 ∧ r.statusOrInitial = origin.statusOrInitial)
    (held : Held key asked sent r trail) (pushed : Pass.pushes asked = prospect.pushes) :
    (do
      let _ ← patchStatus (putProviderGeneration (some (← get).generation))
      return .requeue (← get).spec.retrySeconds : Pass δ κ Provider Next).Keeps
      (rules scope steady past key origin) (fun _ _ => Ends steady past key origin true) r trail := by
  subst hprospect
  refine keeps_get_bind (Keeps.bind
    ((unrefused.follows asked sent).change (exact_putProviderGeneration _) held) ?_)
  rintro _ r' trail' ⟨rfl, held'⟩
  refine keeps_get_bind (keeps_pure ⟨hsucceeds, ⟨_, held'.holds, ⟨resembles.metadata, resembles.spec⟩, ?_⟩,
    fun same before => ?_, (pushes_of_held held').trans pushed⟩)
  · rw [hshows]
    exact connected.put_generation providerIp
  · rw [hshows] at before
    obtain ⟨rfl, hstatus⟩ := idle same before
    have hgeneration : r.statusOrInitial.observedGeneration = some r.generation := by
      rw [hstatus, before.generation, resembles.generation]
    simpa [putProviderGeneration, hgeneration] using held'.sent

theorem keeps_compare {ip : String} {client : δ}
    (hprospect : Prospect.of (foreseen steady past) origin =
      ofClient (foreseen steady past) ip client)
    (settles : origin.Settles (Provider.Connected ip) sent r)
    (held : Held key asked sent r trail) (unpushed : Pass.pushes asked = []) :
    (do
      let served ← proceedCounting Metrics.dnsFailure .client
        "failed to read IP from DNS provider" (← ask (.getIp client))
      let _ ← patchStatus (putProviderIp served)
      if ip ≠ served then
        proceedCounting Metrics.dnsFailure .client "failed to update IP at DNS provider"
          (← ask (.setIp client ip))
        ask (.record (.addressPushed key))
        let _ ← patchStatus (putProviderIp ip)
      let _ ← patchStatus (putProviderGeneration (some (← get).generation))
      return .requeue (← get).spec.retrySeconds : Pass δ κ Provider Next).Keeps
      (rules scope steady past key origin) (fun _ _ => Ends steady past key origin true) r trail := by
  refine keeps_ask_bind trivial fun reply trail₁ echoes₁ => ?_
  obtain ⟨hreply, held₁⟩ := asks held unpushed echoes₁ rfl
  have unpushed₁ : Pass.pushes (asked ++ [⟨.getIp client, reply⟩]) = [] := by
    rw [pushes_append, unpushed]
    rfl
  refine keeps_proceedCounting_bind (fun e he => ⟨trivial, fun trail₂ echoes₂ => ?_⟩) fun served hserved => ?_
  · rw [ofClient, hreply, he] at hprospect
    exact ends_of_settles hprospect rfl settles (unrefused.aside held₁ echoes₂ trivial) unpushed₁
  subst hserved
  refine Keeps.bind ((unrefused.follows _ _).change (exact_putProviderIp served) held₁) ?_
  rintro _ r₂ trail₂ ⟨rfl, held₂⟩
  have settles₂ := Provider.settles_providerIp settles served
  by_cases hsame : ip = served
  · subst hsame
    rw [if_neg fun h => h rfl]
    rw [ofClient_of_served hreply, if_pos rfl] at hprospect
    refine keeps_finish hprospect rfl rfl ⟨settles₂.metadata, settles₂.spec⟩ settles₂.reached.1
      settles₂.reached.2 (fun _ before => ?_) held₂ unpushed₁
    exact settles₂.idle ⟨before.toConnected, before.providerIp⟩
  · rw [if_pos hsame]
    rw [ofClient_of_served hreply, if_neg hsame] at hprospect
    refine keeps_ask_bind trivial fun reply trail₃ echoes₃ => ?_
    obtain ⟨hreply₃, held₃⟩ := asks held₂ unpushed₁ echoes₃ rfl
    have pushed : Pass.pushes (asked ++ [⟨.getIp client, .ok served⟩] ++ [⟨.setIp client ip, reply⟩]) =
        [(ip, reply.isOk)] := by
      rw [pushes_append, unpushed₁]
      rfl
    refine keeps_proceedCounting_bind (fun e he => ⟨trivial, fun trail₄ echoes₄ => ?_⟩) fun _ hdone => ?_
    · subst he
      rw [hreply₃] at hprospect
      exact ends_of_settles hprospect rfl settles₂ (unrefused.aside held₃ echoes₄ trivial) pushed
    subst hdone
    rw [hreply₃] at hprospect
    refine keeps_ask_bind trivial fun _ trail₄ echoes₄ => ?_
    refine Keeps.bind ((unrefused.follows _ _).change (exact_putProviderIp ip)
      (unrefused.aside held₃ echoes₄ trivial)) ?_
    rintro _ r₅ trail₅ ⟨rfl, held₅⟩
    refine keeps_finish hprospect rfl rfl ⟨settles₂.metadata, settles₂.spec⟩
      (settles₂.reached.1.put_providerIp ip) rfl (fun same _ => ?_) held₅ pushed
    cases same

theorem keeps_overProvider (held : Held key [] 0 origin trail) :
    (overProvider key : Pass δ κ Provider Next).Keeps (rules scope steady past key origin)
      (fun _ _ => Ends steady past key origin true) origin trail := by
  refine keeps_get_bind (keeps_ask_bind trivial fun reply trail₁ echoes₁ => ?_)
  obtain ⟨hdiscovered, held₁⟩ := asks held rfl echoes₁ rfl
  refine keeps_proceedCounting_bind (fun e he => ⟨trivial, fun trail₂ echoes₂ => ?_⟩) fun ip hip => ?_
  · have hprospect : Prospect.of (foreseen steady past) origin = .undiscovered := by
      simp only [Prospect.of, hdiscovered, he]
    exact ends_of_settles hprospect rfl (Resource.Settles.start trivial)
      (unrefused.aside held₁ echoes₂ trivial) rfl
  subst hip
  refine Keeps.bind ((unrefused.follows _ _).change (exact_putPublicIp ip) held₁) ?_
  rintro _ _ trail₂ ⟨rfl, held₂⟩
  have settles₂ := Provider.settles_publicIp origin ip
  refine Keeps.bind (keeps_unlock (fun _ _ => unrefused.follows_met _ _ _ _ _) settles₂
    ⟨trivial, meets held₂ rfl rfl⟩
    (fun _ _ _ records => (Provider.publicIp_of_records records).trans settles₂.reached)
    fun e n r trail settles ⟨missing, held⟩ => ?_) ?_
  · have hprospect : Prospect.of (foreseen steady past) origin = .locked ip e := by
      simp only [Prospect.of, hdiscovered, missing]
    exact ends_of_settles hprospect rfl settles held rfl
  rintro secret r₃ trail₃ ⟨n₃, settles₃, found, held₃⟩
  refine Keeps.bind (keeps_equip (fun _ _ => unrefused.follows_met _ _ _ _ _) settles₃
    ⟨trivial, meets held₃ rfl rfl⟩
    (fun _ _ _ records => ⟨(Provider.publicIp_of_records records).trans settles₃.reached.1,
      records.unlocked settles₃.reached.2 (by decide)⟩)
    fun e n r trail settles ⟨missing, held⟩ => ?_) ?_
  · have hprospect : Prospect.of (foreseen steady past) origin = .unequipped ip e := by
      simp only [Prospect.of, hdiscovered, found, missing]
    exact ends_of_settles hprospect rfl settles held rfl
  rintro configMap r₄ trail₄ ⟨n₄, settles₄, found', held₄⟩
  refine keeps_get_bind (keeps_ask_bind trivial fun created trail₅ echoes₅ => ?_)
  obtain ⟨hcreated, held₅⟩ := asks held₄ rfl echoes₅ rfl
  rw [settles₄.spec] at hcreated
  cases created with
  | error e =>
    refine Keeps.bind_of_false ((unrefused.follows _ _).recordCreation_error e held₅
      fun more r trail records held => ?_)
    have hprospect : Prospect.of (foreseen steady past) origin = .unbuilt ip e := by
      simp only [Prospect.of, hdiscovered, found, found', hcreated]
    refine ends_of_settles hprospect rfl ?_ held rfl
    exact settles₄.record records (Condition.settling_fails _ _ _)
      (Provider.Supplied.records settles₄.reached records)
  | ok client =>
    refine Keeps.bind ((unrefused.follows _ _).recordCreation client held₅) ?_
    rintro client r₆ trail₆ ⟨rfl, more₆, records₆, held₆⟩
    have hprospect : Prospect.of (foreseen steady past) origin =
        ofClient (foreseen steady past) ip client := by
      simp only [Prospect.of, hdiscovered, found, found', hcreated]
    exact keeps_compare hprospect (Provider.settles_connected settles₄ records₆) held₆ rfl

theorem provider_obeys (own : origin.key = key) {cluster : Cluster}
    (found : cluster.stored? key = some origin) :
    (Pass.provider key : Calling δ κ Outcome).Obeys (rules scope steady past key origin)
      (fun outcome => Ends steady past key origin outcome.isOk) ⟨cluster, []⟩ := by
  refine ⟨trivial, fun reply trail echoes => ?_⟩
  obtain ⟨outside, -, hanswer⟩ := echoes
  obtain ⟨hreply, htrail⟩ := Prod.mk.inj hanswer
  have hread : reply = .ok (some origin) := hreply.symm.trans (congrArg Except.ok found)
  subst hread
  have held : Held key [] 0 origin trail := by
    rw [← htrail]
    exact ⟨.of_stored found, own, rfl, rfl⟩
  exact (keeps_overProvider held).obeys (fun _ _ _ ends => ends) fun _ _ ends => ends

/-! ### The next pass -/

theorem of_resembles (resembles : Resembles origin r) (answers : (call : Call δ κ) → call.Reply) :
    Prospect.of answers r = Prospect.of answers origin := by
  obtain ⟨metadata, spec, status⟩ := r
  obtain ⟨rfl, rfl⟩ := resembles
  rfl

theorem of_eq_pushed {answers : (call : Call δ κ) → call.Reply} {ip served : String}
    (h : Prospect.of answers origin = .pushed ip served) :
    ∃ secret configMap client, answers (.publicIp origin.spec.customIpProvider) = .ok ip ∧
      answers (.getSecret origin.secretKey) = .ok secret ∧
      answers (.getConfigMap origin.configMapKey) = .ok configMap ∧
      answers (.createClient origin.spec.name secret configMap) = .ok client := by
  simp only [Prospect.of] at h
  split at h
  · cases h
  rename_i ip' hip
  split at h
  · cases h
  rename_i secret hsecret
  split at h
  · cases h
  rename_i configMap hconfigMap
  split at h
  · cases h
  rename_i client hclient
  have hsame : ip' = ip := by
    rw [ofClient] at h
    split at h
    · cases h
    split at h
    · cases h
    split at h
    · cases h
    exact (Prospect.pushed.inj h).1
  exact ⟨secret, configMap, client, hsame ▸ hip, hsecret, hconfigMap, hclient⟩

theorem of_accepted {past' : List (Answered δ κ)} {ip served : String}
    (pushed : Prospect.of (foreseen steady past) origin = .pushed ip served)
    (accepted : accepted? past' = some ip) :
    Prospect.of (foreseen steady past') origin = .agreed ip := by
  obtain ⟨secret, configMap, client, hip, hsecret, hconfigMap, hclient⟩ := of_eq_pushed pushed
  have hserved : foreseen steady past' (.getIp client) = .ok ip := by
    rw [foreseen, accepted]
    rfl
  have hof : Prospect.of (foreseen steady past') origin = ofClient (foreseen steady past') ip client := by
    simp only [foreseen] at hip hsecret hconfigMap hclient
    simp only [Prospect.of, foreseen, hip, hsecret, hconfigMap, hclient]
  rw [hof, ofClient_of_served hserved, if_pos rfl]

/-- Where the next pass ends follows from where a pass ends. -/
theorem of_append {later : List (Answered δ κ)}
    (pushed : Pass.pushes later = (Prospect.of (foreseen steady past) origin).pushes) :
    Prospect.of (foreseen steady (past ++ later)) origin =
      (Prospect.of (foreseen steady past) origin).rest := by
  cases hprospect : Prospect.of (foreseen steady past) origin with
  | pushed ip served =>
    refine of_accepted hprospect ?_
    rw [hprospect] at pushed
    rw [accepted?, pushes_append, pushed]
    simp [Prospect.pushes]
  | _ =>
    rw [hprospect] at pushed
    rw [foreseen_append, hprospect]
    · rfl
    · rw [pushed]
      simp [Prospect.pushes]

end Prospect

variable {scope : Option String} {steady : (call : Call δ κ) → call.Reply}
  {past : List (Answered δ κ)} {key : ObjectKey} {provider : Provider} {cluster : Cluster}
  {outcome outcome' : Outcome} {trail trail' : Trail δ κ}

/-- A pass over a stored provider ends where its prospect says. -/
theorem ends_of_yields (found : cluster.stored? key = some provider) (own : provider.key = key)
    (run : (Pass.provider key : Calling δ κ Outcome).Yields (Trail.Echoes scope steady past)
      ⟨cluster, []⟩ outcome trail) :
    Prospect.Ends steady past key provider outcome.isOk trail :=
  (Prospect.provider_obeys own found).ends_of_yields run

/-- The second of two passes over a provider sends no status patch, wherever the first one ended. It
succeeds if and only if the first one did, and pushes an address only if that was refused before. -/
theorem second_pass_writes_nothing (scope : Option String) (steady : (call : Call δ κ) → call.Reply)
    (past : List (Answered δ κ)) (found : cluster.stored? key = some provider)
    (own : provider.key = key)
    (first : (Pass.provider key : Calling δ κ Outcome).Yields (Trail.Echoes scope steady past)
      ⟨cluster, []⟩ outcome trail)
    (second : (Pass.provider key : Calling δ κ Outcome).Yields
      (Trail.Echoes scope steady (past ++ trail.calls)) ⟨trail.cluster, []⟩ outcome' trail') :
    trail'.patches = 0 ∧ outcome'.isOk = outcome.isOk ∧
      ∀ entry ∈ pushes trail'.calls, entry.2 = false ∧ entry ∈ pushes trail.calls := by
  obtain ⟨hsucceeds, ⟨r, ⟨stored, found', hmetadata, hspec, inStep⟩, resembles, shows⟩, -, hpushes⟩ :=
    ends_of_yields found own first
  have resembles' : Resembles provider stored :=
    ⟨hmetadata.trans resembles.metadata, hspec.trans resembles.spec⟩
  obtain ⟨hsucceeds', -, idle, hpushes'⟩ :=
    ends_of_yields found' (resembles'.key.trans own) second
  have hnext := (Prospect.of_resembles resembles' _).trans (Prospect.of_append hpushes)
  rw [hnext] at hsucceeds' idle hpushes'
  refine ⟨idle Prospect.rest_rest ?_, ?_, fun entry hentry => ?_⟩
  · have generation : stored.generation = r.generation :=
      (resembles'.generation).trans resembles.generation.symm
    exact (Prospect.shows_rest stored).2 (shows.congr generation hspec inStep.getD_eq)
  · rw [← hsucceeds', Prospect.succeeds_rest, hsucceeds]
  · rw [hpushes'] at hentry
    rw [hpushes]
    exact Prospect.refused_of_mem_pushes_rest hentry

end Pass

theorem Trail.echoes_answer (scope : Option String) (steady : (call : Call δ κ) → call.Reply)
    (past : List (Answered δ κ)) (call : Call δ κ) (trail : Trail δ κ) :
    let outside := Pass.foreseen steady (past ++ trail.calls)
    trail.Echoes scope steady past call (trail.answer scope none outside call).1
      (trail.answer scope none outside call).2 :=
  ⟨_, fun _ _ => rfl, rfl⟩

def Home.stale (call : Call Unit Unit) : call.Reply :=
  match call with
  | .getIp _ => .ok "192.0.2.1"
  | .setIp _ _ => .error (.api 403 "Forbidden")
  | call => Home.outside "192.0.2.7" [] call

def Home.pushInVain (past : List (Answered Unit Unit)) (cluster : Cluster) :
    Pass.Outcome × Trail Unit Unit :=
  (Pass.provider (Home.key "zone")).run
    (fun call trail => trail.answer none none (Pass.foreseen Home.stale (past ++ trail.calls)) call)
    ⟨cluster, []⟩

/-- A pass whose address was refused is repeated: the address is pushed once more, and refused again, but
nothing is written. -/
theorem Pass.second_pass_writes_nothing_at_home :
    let zone := Home.key "zone"
    let first := Home.pushInVain [] Home.cluster
    let second := Home.pushInVain first.2.calls first.2.cluster
    (Home.cluster.stored? zone = some Home.zone ∧ Home.zone.key = zone) ∧
      first.1.isOk = false ∧ first.2.patches ≠ 0 ∧ Pass.pushes second.2.calls ≠ [] ∧
        second.2.patches = 0 ∧ second.1.isOk = false ∧
          ("192.0.2.7", false) ∈ Pass.pushes first.2.calls := by
  intro zone first second
  have yields (past : List (Answered Unit Unit)) (cluster : Cluster) :
      (Pass.provider zone : Calling Unit Unit Pass.Outcome).Yields
        (Trail.Echoes none Home.stale past) ⟨cluster, []⟩ (Home.pushInVain past cluster).1
          (Home.pushInVain past cluster).2 :=
    Program.yields_run (fun call trail => Trail.echoes_answer none Home.stale past call trail) _ _
  have found : Home.cluster.stored? zone = some Home.zone := rfl
  have own : Home.zone.key = zone := rfl
  have refused : first.1.isOk = false ∧ first.2.patches ≠ 0 := by
    decide +kernel
  have again : Pass.pushes second.2.calls = [("192.0.2.7", false)] := by
    decide +kernel
  have run : (Pass.provider zone : Calling Unit Unit Pass.Outcome).Yields
      (Trail.Echoes none Home.stale []) ⟨Home.cluster, []⟩ first.1 first.2 := yields [] Home.cluster
  have rerun : (Pass.provider zone : Calling Unit Unit Pass.Outcome).Yields
      (Trail.Echoes none Home.stale ([] ++ first.2.calls)) ⟨first.2.cluster, []⟩ second.1 second.2 := by
    rw [List.nil_append]
    exact yields first.2.calls first.2.cluster
  obtain ⟨unwritten, hsecond, pushed⟩ :=
    Pass.second_pass_writes_nothing none Home.stale [] found own run rerun
  refine ⟨⟨found, own⟩, refused.1, refused.2, ?_, unwritten, hsecond.trans refused.1, ?_⟩
  · rw [again]
    exact List.cons_ne_nil _ _
  · exact (pushed _ (again ▸ List.mem_singleton_self _)).2

end DynamicDns
