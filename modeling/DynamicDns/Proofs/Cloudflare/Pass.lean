import DynamicDns.DnsClient
import DynamicDns.Proofs.Cloudflare.Sync
import DynamicDns.Proofs.Pass.Course

/-!
# A pass over an account

A provider pass decides by the content of one record whether it pushes the public address. If it
pushes and succeeds the account is in sync; if it does not, the account is as it was. The calls of the
pass are kept, so the address that it discovered and the one that it read are those of its own calls:
after a pass that succeeds the account is in sync exactly if the two differed, or it already was in
sync (`inSync_after_pass_iff`).
-/

namespace DynamicDns.Cloudflare

open Pass (Outcome Phase)

def Config.IsIn (config : Config) (configMap : ConfigMap) : Prop :=
  ∃ text, configMap.text? configKey = some text ∧ Config.ofText text = .ok config

def Config.IsOf (config : Config) : DnsClient → Prop
  | .cloudflare client => client.baseUrl = publicUrl ∧ client.config = config

theorem trimmed_publicUrl :
    String.ofList (publicUrl.toList.reverse.dropWhile (· = '/')).reverse = publicUrl := by
  decide +kernel

theorem Client.create_eq_ok {config : Config} {token : String} {client : Client}
    (h : create config token publicUrl = .ok client) :
    client.baseUrl = publicUrl ∧ client.config = config := by
  rw [create] at h
  split at h
  · cases h
    exact ⟨trimmed_publicUrl, rfl⟩
  · cases h

theorem Config.isOf_of_create {config : Config} {configMap : ConfigMap}
    (found : config.IsIn configMap) {name : String} {secret : Secret} {client : DnsClient}
    (h : DnsClient.create name secret configMap = .ok client) : config.IsOf client := by
  obtain ⟨text, htext, hconfig⟩ := found
  rw [DnsClient.create] at h
  split at h
  · cases hclient : Client.ofObjects secret configMap with
    | error e =>
      rw [hclient] at h
      cases h
    | ok built =>
      rw [hclient] at h
      cases h
      simp only [Client.ofObjects, htext, hconfig, bind, Except.bind] at hclient
      split at hclient
      · cases hclient
      · exact Client.create_eq_ok hclient
  · cases h

/-- What has become of a service, and the calls of a pass that have led there, in their order. -/
structure Dealings (σ κ : Type) where
  state : σ
  calls : List (Answered DnsClient κ)

namespace Service

variable {σ κ : Type} {service : Service σ} {s s' start : σ} {config : Config}
  {configMap : ConfigMap} {key : ObjectKey}

/-- How the calls of a pass over an account are answered. One config map can be found, the client is
built from what was found, and its requests go to the service; the rest is answered in any way. -/
def Answers (service : Service σ) (configMap : ConfigMap) (s : σ) :
    (call : Call DnsClient κ) → call.Reply → σ → Prop
  | .getConfigMap _, reply, s' => (∀ found, reply = .ok found → found = configMap) ∧ s' = s
  | .createClient name secret configMap, reply, s' =>
    reply = DnsClient.create name secret configMap ∧ s' = s
  | .getIp client, reply, s' => client.getIp.run.Yields service.answers s reply s'
  | .setIp client ip, reply, s' => (client.setIp ip).run.Yields service.answers s reply s'
  | _, _, s' => s' = s

def Continues (service : Service σ) (configMap : ConfigMap) (dealings : Dealings σ κ)
    (call : Call DnsClient κ) (reply : call.Reply) (dealings' : Dealings σ κ) : Prop :=
  service.Answers configMap dealings.state call reply dealings'.state ∧
    dealings'.calls = dealings.calls ++ [⟨call, reply⟩]

def Reads (service : Service σ) (s : σ) (config : Config) (ip : String) : Prop :=
  ∃ wanted ∈ config.zones, service.ReadsFrom s wanted ip

/-- What has become of the account when a pass has come to a phase. -/
def Stands (service : Service σ) (config : Config) (configMap : ConfigMap) (start : σ) :
    Phase DnsClient → σ → Prop
  | .opening, s | .absent, s | .preparing _, s => service.Same start s
  | .discovered _ _, s | .unlocked _ _ _, s => service.Same start s
  | .equipped _ _ _ used, s => used = configMap ∧ service.Same start s
  | .connected _ _ client, s => config.IsOf client ∧ service.Same start s
  | .compared _ _ client _, s => config.IsOf client ∧ service.Same start s
  | .pushed _ ip _, s => (service.account s).InSync config ip
  | .finished, _ => True

theorem stands_next (found : config.IsIn configMap) (proper : (service.account start).Proper)
    {phase : Phase DnsClient} (stands : service.Stands config configMap start phase s)
    {call : Call DnsClient κ} (allowed : Phase.allows key phase call) {reply : call.Reply}
    (answer : service.Answers configMap s call reply s') :
    service.Stands config configMap start (phase.next call reply) s' := by
  cases call with
  | getProvider k =>
    obtain ⟨rfl, -⟩ := allowed
    obtain rfl := answer
    rcases reply with failure | _ | provider
    · trivial
    · exact stands
    · exact stands
  | publicIp preferred =>
    obtain ⟨provider, rfl, -⟩ := allowed
    obtain rfl := answer
    cases reply with
    | error e => trivial
    | ok ip => exact stands
  | getSecret k =>
    obtain rfl := answer
    rcases reply with e | secret
    · cases phase <;> exact stands
    · cases phase <;> exact stands
  | getConfigMap k =>
    obtain ⟨hused, rfl⟩ := answer
    rcases reply with e | used
    · cases phase <;> exact stands
    · cases phase with
      | unlocked provider ip secret => exact ⟨hused used rfl, stands⟩
      | _ => exact stands
  | createClient name secret used =>
    obtain ⟨provider, ip, rfl, -⟩ := allowed
    obtain ⟨hcreated, rfl⟩ := answer
    obtain ⟨rfl, same⟩ := stands
    cases reply with
    | error e => exact ⟨rfl, same⟩
    | ok client => exact ⟨Config.isOf_of_create found hcreated.symm, same⟩
  | getIp client =>
    obtain ⟨provider, ip, rfl⟩ := allowed
    obtain ⟨isOf, same⟩ := stands
    cases client with
    | cloudflare client =>
      cases reply with
      | error e => trivial
      | ok served =>
        obtain ⟨same', -⟩ := ((keeps_getIp isOf.1).of_yields answer).1 served rfl
        exact ⟨isOf, same.trans same'⟩
  | setIp client ip =>
    obtain ⟨provider, served, rfl, -⟩ := allowed
    obtain ⟨isOf, same⟩ := stands
    cases client with
    | cloudflare client =>
      obtain ⟨hbase, rfl⟩ := isOf
      cases reply with
      | error e => trivial
      | ok value =>
        have proper' : (service.account s).Proper := same.account ▸ proper
        exact ((keeps_setIp hbase proper' ip).of_yields answer).1 value rfl
  | patchStatus kind k patch =>
    obtain rfl := answer
    exact stands
  | now | elapsed | record =>
    obtain rfl := answer
    exact stands
  | listProviders | getNotifier | patchProvider | createChannel | greet | notify => cases allowed

/-- The address that a pass is told of is one that the account showed before it. -/
theorem reads_of_answers {phase : Phase DnsClient}
    (stands : service.Stands config configMap start phase s) {call : Call DnsClient κ}
    (allowed : Phase.allows key phase call) {reply : call.Reply}
    (answer : service.Answers configMap s call reply s') {ip : String}
    (h : Answered.served? (⟨call, reply⟩ : Answered DnsClient κ) = some ip) :
    service.Reads start config ip := by
  cases call with
  | getIp client =>
    obtain ⟨provider, discovered, rfl⟩ := allowed
    obtain ⟨isOf, same⟩ := stands
    cases client with
    | cloudflare client =>
      obtain ⟨hbase, rfl⟩ := isOf
      cases reply with
      | error e => cases h
      | ok served =>
        obtain rfl : served = ip := Option.some.inj h
        obtain ⟨-, wanted, hwanted, hread⟩ := ((keeps_getIp hbase).of_yields answer).1 served rfl
        exact ⟨wanted, hwanted, same.readsFrom hread⟩
  | _ => cases h

/-- A pass that has come to a phase: what it was told so far, and how the account stands. -/
structure Along (service : Service σ) (config : Config) (configMap : ConfigMap) (start : σ)
    (phase : Phase DnsClient) (dealings : Dealings σ κ) : Prop where
  told : phase.Tells dealings.calls
  reads : ∀ read ∈ dealings.calls.filterMap Answered.served?, service.Reads start config read
  stands : service.Stands config configMap start phase dealings.state

theorem Along.next (found : config.IsIn configMap) (proper : (service.account start).Proper)
    {phase : Phase DnsClient} {dealings dealings' : Dealings σ κ}
    (along : service.Along config configMap start phase dealings) {call : Call DnsClient κ}
    (allowed : Phase.allows key phase call) {reply : call.Reply}
    (continues : service.Continues configMap dealings call reply dealings') :
    service.Along config configMap start (phase.next call reply) dealings' := by
  obtain ⟨answer, hcalls⟩ := continues
  refine ⟨?_, fun read hread => ?_, stands_next found proper along.stands allowed answer⟩
  · rw [hcalls]
    exact along.told.next allowed reply
  · rw [hcalls, List.filterMap_append] at hread
    rcases List.mem_append.1 hread with hread | hread
    · exact along.reads read hread
    · obtain ⟨answered, hanswered, hserved⟩ := List.mem_filterMap.1 hread
      rw [List.mem_singleton.1 hanswered] at hserved
      exact reads_of_answers along.stands allowed answer hserved

end Service

/-! ### Passes over two records -/

namespace Pair

def config : Config := ⟨[⟨"a.dev", [⟨"a.dev", false⟩, ⟨"b.a.dev", false⟩]⟩]⟩

def metadata (name : String) : Metadata :=
  { Metadata.empty with name := some name, ns := some "home" }

def secret : Secret :=
  ⟨metadata "token", some [("apiToken", Utf8.encode "secret")], none, none, none⟩

def configMap : ConfigMap :=
  ⟨metadata "settings", some [("config", config.encode.compact)], none, none⟩

def provider : Provider := ⟨metadata "zone", ⟨"Cloudflare", "token", "settings", 900, none, []⟩, none⟩

theorem config_isIn : config.IsIn configMap := by
  refine ⟨config.encode.compact, by decide +kernel, ?_⟩
  have hread : (Config.ofText config.encode.compact).toOption = some config := by
    decide +kernel
  cases hresult : Config.ofText config.encode.compact with
  | error e =>
    rw [hresult] at hread
    cases hread
  | ok found =>
    rw [hresult] at hread
    cases hread
    rfl

def reply (call : Call DnsClient Unit) (s : Bool × Bool) : call.Reply × (Bool × Bool) :=
  match call with
  | .getProvider _ => (.ok (some provider), s)
  | .publicIp _ => (.ok (address true), s)
  | .getSecret _ => (.ok secret, s)
  | .getConfigMap _ => (.ok configMap, s)
  | .createClient name secret configMap => (DnsClient.create name secret configMap, s)
  | .getIp client => client.getIp.run.run answer s
  | .setIp client ip => (client.setIp ip).run.run answer s
  | .patchStatus _ _ _ | .patchProvider _ _ => (.ok (), s)
  | .listProviders => (.ok [], s)
  | .getNotifier _ => (.ok none, s)
  | .createChannel _ _ _ | .greet _ | .notify _ _ => (.ok (), s)
  | .now => ("", s)
  | .elapsed => (0, s)
  | .record _ => ((), s)

def replyKeeping (call : Call DnsClient Unit) (dealings : Dealings (Bool × Bool) Unit) :
    call.Reply × Dealings (Bool × Bool) Unit :=
  let (reply, s) := reply call dealings.state
  (reply, ⟨s, dealings.calls ++ [⟨call, reply⟩]⟩)

theorem answers_reply (call : Call DnsClient Unit) (s : Bool × Bool) :
    service.Answers configMap s call (reply call s).1 (reply call s).2 := by
  have hexchange {α : Type} (exchange : Http.Exchange α) :
      exchange.Yields service.answers s (exchange.run answer s).1 (exchange.run answer s).2 :=
    Program.yields_run (fun _ _ => rfl) exchange s
  cases call with
  | getConfigMap => exact ⟨fun found h => (Except.ok.inj h).symm, rfl⟩
  | createClient => exact ⟨rfl, rfl⟩
  | getIp client => exact hexchange client.getIp.run
  | setIp client ip => exact hexchange (client.setIp ip).run
  | _ => rfl

def pass : Calling DnsClient Unit Outcome := Pass.provider provider.key

def visit (s : Bool × Bool) : Outcome × Dealings (Bool × Bool) Unit :=
  pass.run replyKeeping ⟨s, []⟩

def requeues : Outcome → Bool
  | .ok (.requeue _) => true
  | _ => false

theorem exists_passes {s : Bool × Bool} (h : requeues (visit s).1 = true) :
    ∃ seconds, pass.Yields (service.Continues configMap) ⟨s, []⟩ (.ok (.requeue seconds))
      (visit s).2 := by
  have passes : pass.Yields (service.Continues configMap) ⟨s, []⟩ (visit s).1 (visit s).2 :=
    Program.yields_run (fun call dealings => ⟨answers_reply call dealings.state, rfl⟩) pass _
  rcases hends : (visit s).1 with failure | _ | seconds
  · rw [hends] at h
    cases h
  · rw [hends] at h
    cases h
  · rw [hends] at passes
    exact ⟨seconds, passes⟩

/-- A pass that finds the first record changed leaves the second, and one that finds it unchanged
changes both. -/
theorem visit_ends :
    (requeues (visit (true, false)).1 = true ∧ (visit (true, false)).2.state = (true, false) ∧
      (visit (true, false)).2.calls.filterMap Answered.discovered? = [address true]) ∧
    (requeues (visit (false, true)).1 = true ∧ (visit (false, true)).2.state = (true, true)) := by
  decide +kernel

end Pair

namespace Service

/-- The one record that a pass reads decides. After a pass that succeeds every configured record holds
the public address that it discovered exactly if the address that it was told of was another one, so
that the public address was pushed, or every configured record held it before. -/
theorem inSync_after_pass_iff (service : Service σ) (proper : (service.account start).Proper)
    {config : Config} {configMap : ConfigMap} (found : config.IsIn configMap) {key : ObjectKey}
    {seconds : Nat} {after : Dealings σ κ}
    (passes : (Pass.provider key : Calling DnsClient κ Outcome).Yields
      (service.Continues configMap) ⟨start, []⟩ (.ok (.requeue seconds)) after) :
    ∃ ip read, after.calls.filterMap Answered.discovered? = [ip] ∧
      after.calls.filterMap Answered.served? = [read] ∧ service.Reads start config read ∧
      after.calls.filterMap Answered.pushed? = (if read = ip then [] else [ip]) ∧
      ((service.account after.state).InSync config ip ↔
        read ≠ ip ∨ (service.account start).InSync config ip) := by
  have hstart : service.Along config configMap start .opening (⟨start, []⟩ : Dealings σ κ) :=
    ⟨⟨rfl, rfl, rfl⟩, fun read hread => absurd hread List.not_mem_nil, .refl start⟩
  obtain ⟨phase, hends, along⟩ := Program.Obeys.of_yields
    (service.Along config configMap start)
    (fun phase dealings call reply dealings' along allowed continues =>
      ⟨_, rfl, along.next found proper allowed continues⟩)
    (Pass.provider_obeys key) hstart passes
  obtain ⟨told, reads, stands⟩ := along
  obtain ⟨provider, ip, client, -, rfl | rfl⟩ := hends
  · obtain ⟨-, same⟩ := stands
    have hread : service.Reads start config ip := reads ip (told.served ▸ List.mem_singleton_self ip)
    refine ⟨ip, ip, told.discovered, told.served, hread, ?_, ?_⟩
    · rw [told.pushed, if_pos rfl]
    · rw [same.account]
      exact ⟨.inr, fun h => h.resolve_left fun hne => hne rfl⟩
  · obtain ⟨read, hne, told⟩ := told
    have hread : service.Reads start config read :=
      reads read (told.served ▸ List.mem_singleton_self read)
    refine ⟨ip, read, told.discovered, told.served, hread, ?_, ?_⟩
    · rw [told.pushed, if_neg hne]
    · exact ⟨fun _ => .inl hne, fun _ => stands⟩

/-- The second record held the address and the first one did not, so it was pushed. -/
theorem inSync_after_pass_of_pair :
    Pair.config.IsIn Pair.configMap ∧ (Pair.service.account (false, true)).Proper ∧
    ∃ seconds after, Pair.pass.Yields (Pair.service.Continues Pair.configMap)
        ⟨(false, true), []⟩ (.ok (.requeue seconds)) after ∧ after.state = (true, true) ∧
      ∃ ip read, after.calls.filterMap Answered.discovered? = [ip] ∧
        after.calls.filterMap Answered.served? = [read] ∧
        Pair.service.Reads (false, true) Pair.config read ∧
        after.calls.filterMap Answered.pushed? = (if read = ip then [] else [ip]) ∧
        ((Pair.service.account after.state).InSync Pair.config ip ↔
          read ≠ ip ∨ (Pair.service.account (false, true)).InSync Pair.config ip) := by
  have proper : (Pair.service.account (false, true)).Proper := List.pairwise_singleton _ _
  obtain ⟨hrequeues, hstate⟩ := Pair.visit_ends.2
  obtain ⟨seconds, passes⟩ := Pair.exists_passes hrequeues
  exact ⟨Pair.config_isIn, proper, seconds, _, passes, hstate,
    inSync_after_pass_iff Pair.service proper Pair.config_isIn passes⟩

/-- A pass can succeed and leave a configured record behind. -/
theorem pass_leaves_record :
    Pair.config.IsIn Pair.configMap ∧ (Pair.service.account (true, false)).Proper ∧
    ∃ seconds after, Pair.pass.Yields (Pair.service.Continues Pair.configMap)
        ⟨(true, false), []⟩ (.ok (.requeue seconds)) after ∧
      after.calls.filterMap Answered.discovered? = [Pair.address true] ∧
      ¬(Pair.service.account after.state).InSync Pair.config (Pair.address true) := by
  obtain ⟨hrequeues, hstate, hdiscovered⟩ := Pair.visit_ends.1
  obtain ⟨seconds, passes⟩ := Pair.exists_passes hrequeues
  refine ⟨Pair.config_isIn, List.pairwise_singleton _ _, seconds, _, passes, hdiscovered,
    fun h => ?_⟩
  rw [hstate] at h
  have hsecond := h _ List.mem_cons_self ⟨"z", "a.dev"⟩ List.mem_cons_self rfl
    ⟨Pair.second false, "z", false⟩ (by decide +kernel) (by decide +kernel)
  exact absurd hsecond (by decide)

end Service

end DynamicDns.Cloudflare
