import DynamicDns.Proofs.Pass.Timeless
import DynamicDns.Proofs.Run.Briefing
import DynamicDns.Proofs.Run.Deliveries

/-!
# A round of announcements

A ready notifier is told of the pending providers one after the other, in the order in which they are
listed, where all calls succeed but for the messages, which are delivered as a pattern has it. What is
known of the cluster may depend on what the notifier was told of. If it stays known when a status of
the notifier is stored, and when a provider that it was told of is marked (`Lasting`), then it is known
all along: a round ends when all was told, or it halts at the first message that is not delivered
(`keeps_overNotifier`). Up to the first message it does not matter what becomes of the markers
(`keeps_overNotifier_of`).
-/

namespace DynamicDns

open Pass

variable {δ κ : Type}

namespace Pass

def messages (calls : List (Answered δ κ)) : List (String × Except ChannelError Unit) :=
  calls.filterMap fun
    | ⟨.notify _ message, reply⟩ => some (message, reply)
    | _ => none

def announcement (entry : Provider × String) : String :=
  Wording.announcement entry.2 entry.1.statusOrInitial.publicIp entry.1.key.name

def delivered (told : List (Provider × String)) : List (String × Except ChannelError Unit) :=
  told.map fun entry => (announcement entry, .ok ())

theorem delivered_append (told : List (Provider × String)) (entry : Provider × String) :
    delivered (told ++ [entry]) = delivered told ++ [(announcement entry, .ok ())] := by
  simp [delivered]

end Pass

def Cluster.Demoted (notifier : ObjectKey) (error : ChannelError) (cluster : Cluster) : Prop :=
  ∃ stored c, cluster.notifiers.get? notifier = some stored ∧
    stored.statusOrInitial.isReady = false ∧
    Condition.find? stored.conditions Condition.typeClient = some c ∧
    c.status = Condition.statusFalse ∧ c.reason = some Wording.clientCommunication ∧
    c.message = some (Wording.notificationFailed error.text)

/-! ### How the pass is answered -/

namespace Trail

/-- The store takes every patch that it can and lists the given providers, lookups and constructions
succeed, and messages are delivered as the pattern has it. -/
def Responds (listed : List Provider) (pattern : Nat → Except ChannelError Unit)
    (trail : Trail δ κ) : (call : Call δ κ) → call.Reply → Cluster → Prop
  | .listProviders, reply, cluster => reply = .ok listed ∧ cluster = trail.cluster
  | .getSecret _, reply, cluster => reply.isOk = true ∧ cluster = trail.cluster
  | .getConfigMap _, reply, cluster => reply.isOk = true ∧ cluster = trail.cluster
  | .createChannel _ _ _, reply, cluster => reply.isOk = true ∧ cluster = trail.cluster
  | .notify _ _, reply, cluster =>
    reply = pattern (messages trail.calls).length ∧ cluster = trail.cluster
  | call, reply, cluster => ∃ outside, trail.cluster.answer none none outside call = (reply, cluster)

def Relays (listed : List Provider) (pattern : Nat → Except ChannelError Unit) (trail : Trail δ κ)
    (call : Call δ κ) (reply : call.Reply) (trail' : Trail δ κ) : Prop :=
  trail.Responds listed pattern call reply trail'.cluster ∧
    trail'.calls = trail.calls ++ [⟨call, reply⟩]

end Trail

namespace Round

variable {key : ObjectKey} {listed : List Provider} {pattern : Nat → Except ChannelError Unit}
  {along : List (Provider × String) → Cluster → Prop} {due told : List (Provider × String)}
  {sent : List (String × Except ChannelError Unit)} {origin memory r : Notifier} {trail trail' : Trail δ κ}
  {rules : Program.Rules (@Call.Reply δ κ) (Trail δ κ)}

/-! ### What is known while a round goes on -/

/-- What is known of a cluster by what a notifier was told of stays known until it was told of all that
is due. -/
structure Lasting (key : ObjectKey) (due : List (Provider × String))
    (along : List (Provider × String) → Cluster → Prop) : Prop where
  survives : ∀ told, Estate.Survives NotifierSpec NotifierStatus key (along told)
  marks : ∀ told entry rest cluster, due = told ++ entry :: rest → along told cluster →
    ∃ cluster', cluster.patch .provider entry.1.key (key.marker.patch entry.2) = .ok cluster' ∧
      along (told ++ [entry]) cluster' ∧ cluster'.notifiers = cluster.notifiers

theorem next_of_due (apart : listed.Pairwise fun a b => a.key ≠ b.key) {entry : Provider × String}
    {rest : List (Provider × String)}
    (hdue : dueAmong key key.marker listed = told ++ entry :: rest) :
    entry.1 ∈ listed ∧ ∀ other ∈ told, other.1.key ≠ entry.1.key := by
  have hentry : entry ∈ dueAmong key key.marker listed := by simp [hdue]
  have hpairs : (dueAmong key key.marker listed).Pairwise fun a b => a.1.key ≠ b.1.key :=
    dueAmong_pairwise apart
  rw [hdue, List.pairwise_append] at hpairs
  obtain ⟨-, -, hacross⟩ := hpairs
  exact ⟨(mem_dueAmong hentry).1, fun other hother => hacross other hother entry List.mem_cons_self⟩

structure Ongoing (key : ObjectKey) (along : List (Provider × String) → Cluster → Prop)
    (told : List (Provider × String)) (sent : List (String × Except ChannelError Unit)) (r : Notifier)
    (trail : Trail δ κ) : Prop where
  holds : trail.cluster.Holds key r
  own : r.key = key
  known : along told trail.cluster
  sent : messages trail.calls = sent

structure Progress (key : ObjectKey) (along : List (Provider × String) → Cluster → Prop)
    (pattern : Nat → Except ChannelError Unit) (told : List (Provider × String)) (memory r : Notifier)
    (trail : Trail δ κ) : Prop extends Ongoing key along told (delivered told) r trail where
  delivers : ∀ i < told.length, pattern i = .ok ()
  remembers : Notifier.timeless r = Notifier.timeless memory

def Halted (key : ObjectKey) (along : List (Provider × String) → Cluster → Prop)
    (pattern : Nat → Except ChannelError Unit) (due : List (Provider × String))
    (trail : Trail δ κ) : Prop :=
  ∃ told entry rest e, due = told ++ entry :: rest ∧ (∀ i < told.length, pattern i = .ok ()) ∧
    along told trail.cluster ∧ pattern told.length = .error e ∧
    messages trail.calls = delivered told ++ [(announcement entry, .error e)] ∧
    trail.cluster.Demoted key e

/-- All but markers is answered as in a round. -/
structure Admits (rules : Program.Rules (@Call.Reply δ κ) (Trail δ κ)) (listed : List Provider)
    (pattern : Nat → Except ChannelError Unit) : Prop where
  allows : ∀ trail call, rules.allows trail call
  answers : ∀ (trail : Trail δ κ) (call : Call δ κ) reply trail',
    (∀ key patch, call ≠ .patchProvider key patch) → rules.answers trail call reply trail' →
      trail.Relays listed pattern call reply trail'

/-- Markers are answered as in a round too, which may halt. -/
structure Hosts (rules : Program.Rules (@Call.Reply δ κ) (Trail δ κ)) (key : ObjectKey)
    (along : List (Provider × String) → Cluster → Prop) (listed : List Provider)
    (pattern : Nat → Except ChannelError Unit) (due : List (Provider × String)) : Prop
    extends Admits rules listed pattern where
  marks : ∀ (trail : Trail δ κ) (provider : ObjectKey) (ip : String) reply trail',
    rules.answers trail (.patchProvider provider (key.marker.patch ip)) reply trail' →
      trail.Relays listed pattern (.patchProvider provider (key.marker.patch ip)) reply trail'
  halts : ∀ trail, Halted key along pattern due trail → rules.fails trail

/-- A call that sends no message and leaves the cluster as it is. -/
theorem Ongoing.aside (ongoing : Ongoing key along told sent r trail) {call : Call δ κ}
    {reply : call.Reply} (relays : trail.Relays listed pattern call reply trail')
    (same : trail'.cluster = trail.cluster)
    (quiet : messages [(⟨call, reply⟩ : Answered δ κ)] = []) :
    Ongoing key along told sent r trail' where
  holds := same ▸ ongoing.holds
  own := ongoing.own
  known := same ▸ ongoing.known
  sent := by rw [relays.2, messages, List.filterMap_append, ← messages, ← messages, quiet,
    List.append_nil, ongoing.sent]

theorem same_of_now {reply : String} (relays : trail.Relays listed pattern .now reply trail') :
    trail'.cluster = trail.cluster := by
  obtain ⟨⟨outside, hanswer⟩, -⟩ := relays
  exact (Prod.mk.inj hanswer).2.symm

theorem same_of_record {event : Metrics.Event}
    (relays : trail.Relays listed pattern (.record event) () trail') :
    trail'.cluster = trail.cluster := by
  obtain ⟨⟨outside, hanswer⟩, -⟩ := relays
  exact (Prod.mk.inj hanswer).2.symm

theorem Admits.keeps_ask_bind {α ρ : Type} (admits : Admits rules listed pattern) {call : Call δ κ}
    {gets : α → ρ → Trail δ κ → Prop} {f : call.Reply → Pass δ κ ρ α} {r : ρ}
    (hcall : ∀ key patch, call ≠ .patchProvider key patch)
    (answered : ∀ reply trail', trail.Relays listed pattern call reply trail' →
      (f reply).Keeps rules gets r trail') : (ask call >>= f).Keeps rules gets r trail :=
  Pass.keeps_ask_bind (admits.allows _ _) fun reply trail' answer =>
    answered reply trail' (admits.answers _ _ _ _ hcall answer)

theorem follows (admits : Admits rules listed pattern)
    (survives : Estate.Survives NotifierSpec NotifierStatus key (along told))
    (sent : List (String × Except ChannelError Unit)) :
    Follows rules (Ongoing key along told sent) fun _ => Ongoing key along told sent where
  clock r trail ongoing := by
    refine ⟨admits.allows _ _, fun now trail' answer => ?_⟩
    have relays := admits.answers _ .now _ _ nofun answer
    exact ongoing.aside relays (same_of_now relays) rfl
  sends r trail ongoing status := by
    refine ⟨admits.allows _ _, fun reply trail' answer => ?_⟩
    obtain ⟨⟨outside, hanswer⟩, hcalls⟩ := admits.answers _ (.patchStatus _ _ _) _ _ nofun answer
    rw [ongoing.own, ongoing.holds.answer_statusPatch] at hanswer
    obtain ⟨rfl, hcluster⟩ := Prod.mk.inj hanswer
    refine ⟨hcluster ▸ .store _ key _, ongoing.own, ?_, ?_⟩
    · rw [← hcluster]
      exact survives _ r status ongoing.known ongoing.holds ongoing.own
    · rw [hcalls, messages, List.filterMap_append]
      exact (List.append_nil _).trans ongoing.sent
  rests r trail ongoing := ⟨ongoing.holds.initialized, ongoing.own, ongoing.known, ongoing.sent⟩

theorem Ongoing.notifies (ongoing : Ongoing key along told sent r trail) {channel : κ}
    {message : String} {reply : Except ChannelError Unit}
    (relays : trail.Relays listed pattern (.notify channel message) reply trail') :
    reply = pattern sent.length ∧ Ongoing key along told (sent ++ [(message, reply)]) r trail' := by
  obtain ⟨⟨hreply, hcluster⟩, hcalls⟩ := relays
  refine ⟨ongoing.sent ▸ hreply, hcluster ▸ ongoing.holds, ongoing.own, hcluster ▸ ongoing.known, ?_⟩
  rw [hcalls, messages, List.filterMap_append, ← messages, ongoing.sent]
  rfl

theorem begins {before : Cluster} (kept : before.WellKept)
    (read : before.notifiers.get? key = some origin) (known : along [] before)
    {reply : Except Failure (Option Notifier)}
    (relays : Trail.Relays listed pattern ⟨before, []⟩ (.getNotifier key) reply trail') :
    reply = .ok (some origin) ∧ Ongoing key along [] [] origin trail' := by
  obtain ⟨⟨outside, hanswer⟩, hcalls⟩ := relays
  obtain ⟨hreply, hcluster⟩ := Prod.mk.inj hanswer
  refine ⟨hreply.symm.trans (congrArg Except.ok read), ?_, kept.notifiers.keyOf_of_get? read, ?_, ?_⟩
  · rw [← hcluster]
    exact .of_stored read
  · rw [← hcluster]
    exact known
  · rw [hcalls]
    rfl

/-! ### The messages -/

theorem keeps_message {α : Type} (admits : Admits rules listed pattern) (channel : κ)
    {message : String} {gets : α → Notifier → Trail δ κ → Prop}
    {f : Except ChannelError Unit → Pass δ κ Notifier α} (ongoing : Ongoing key along told sent r trail)
    (goes : ∀ reply trail', reply = pattern sent.length →
      Ongoing key along told (sent ++ [(message, reply)]) r trail' →
        (f reply).Keeps rules gets r trail') :
    (do
      let reply ← ask (.notify channel message)
      ask (.record (.message Metrics.changeMessage reply.isOk))
      f reply : Pass δ κ Notifier α).Keeps rules gets r trail := by
  refine admits.keeps_ask_bind nofun fun reply trail₁ relays₁ => ?_
  obtain ⟨hreply, ongoing₁⟩ := ongoing.notifies relays₁
  refine admits.keeps_ask_bind nofun fun _ trail₂ relays₂ => ?_
  exact goes reply trail₂ hreply (ongoing₁.aside relays₂ (same_of_record relays₂) rfl)

/-- A pass that met a message that could not be delivered records it, and ends. -/
theorem keeps_demote (hosts : Hosts rules key along listed pattern due)
    (lasting : Lasting key due along) {entry : Provider × String}
    {rest : List (Provider × String)} {e : ChannelError} (hdue : due = told ++ entry :: rest)
    (delivers : ∀ i < told.length, pattern i = .ok ()) (fails : pattern told.length = .error e)
    (ongoing : Ongoing key along told (delivered told ++ [(announcement entry, .error e)]) r trail) :
    (do
      let failed ← stamped Condition.typeClient
        (Pass.fails Wording.clientCommunication (Wording.notificationFailed e.text))
      let _ ← patchStatus (andAlso (putReady false) failed)
      proceed .channel "unable to send notification" (.error e) : Pass δ κ Notifier Unit).Keeps rules
      (fun _ _ _ => False) r trail := by
  rw [stamped_bind]
  refine hosts.keeps_ask_bind nofun fun now trail₁ relays => keeps_get_bind ?_
  have ongoing₁ := ongoing.aside relays (same_of_now relays) rfl
  refine Keeps.bind ((follows hosts.toAdmits (lasting.survives told) _).change
    ((exact_putReady false).andAlso (exact_assign _ _ _)) ongoing₁) ?_
  rintro _ r₂ trail₂ ⟨hr₂, ongoing₂⟩
  apply keeps_proceed_error
  apply hosts.halts
  refine ⟨told, entry, rest, e, hdue, delivers, ongoing₂.known, fails, ongoing₂.sent, ?_⟩
  have ready : r₂.statusOrInitial.isReady = false := by
    rw [hr₂]
    rfl
  have reports : r₂.Reports Condition.typeClient
      (Pass.fails Wording.clientCommunication (Wording.notificationFailed e.text)) := by
    rw [hr₂]
    exact Resource.reports_recorded (r := r.put { r.statusOrInitial with isReady := false })
      (Condition.settling_fails _ _ _) now
  obtain ⟨c, hfound, meets⟩ := reports
  obtain ⟨hstatus, hreason, hmessage, -⟩ := Condition.meets_fails.1 meets
  obtain ⟨stored, found, -⟩ := id ongoing₂.holds
  obtain ⟨-, -, hstored⟩ := ongoing₂.holds.agrees found
  refine ⟨stored, c, found, hstored ▸ ready, ?_, hstatus, hreason, hmessage⟩
  rw [Resource.conditions, hstored]
  exact hfound

theorem keeps_announce (hosts : Hosts rules key along listed pattern due)
    (lasting : Lasting key due along) (channel : κ) {entry : Provider × String}
    {rest : List (Provider × String)} (hdue : due = told ++ entry :: rest)
    (progress : Progress key along pattern told memory r trail) :
    (announce channel key.marker entry.1 entry.2 : Pass δ κ Notifier Unit).Keeps rules
      (fun _ => Progress key along pattern (told ++ [entry]) (memory.notified "")) r trail := by
  refine keeps_message hosts.toAdmits channel progress.toOngoing fun reply trail₂ hreply ongoing₂ => ?_
  rw [delivered, List.length_map] at hreply
  cases reply with
  | error e =>
    exact (keeps_demote hosts lasting hdue progress.delivers hreply.symm ongoing₂).mono
      fun _ _ _ absurd => absurd.elim
  | ok value =>
    refine Keeps.bind ((follows hosts.toAdmits (lasting.survives told) _).recordCondition _ _
      ongoing₂) ?_
    rintro _ r₃ trail₃ ⟨_, records, ongoing₃⟩
    refine keeps_ask_bind (hosts.allows _ _) fun reply trail₄ answer => ?_
    obtain ⟨cluster', hpatch, known, hnotifiers⟩ := lasting.marks told entry rest _ hdue ongoing₃.known
    obtain ⟨⟨outside, hanswer⟩, hcalls⟩ := hosts.marks _ _ _ _ _ answer
    rw [Cluster.answer, Cluster.patching, hpatch] at hanswer
    obtain ⟨rfl, hcluster⟩ := Prod.mk.inj hanswer
    refine keeps_pure ⟨⟨?_, ongoing₃.own, hcluster ▸ known, ?_⟩, fun i hi => ?_, ?_⟩
    · obtain ⟨stored, hstored, agrees⟩ := ongoing₃.holds
      refine ⟨stored, ?_, agrees⟩
      rw [← hcluster]
      exact (congrArg (Shelf.get? · key) hnotifiers).trans hstored
    · rw [hcalls, messages, List.filterMap_append, delivered_append]
      exact (List.append_nil _).trans ongoing₃.sent
    · rw [List.length_append, List.length_singleton] at hi
      rcases Nat.lt_succ_iff_lt_or_eq.1 hi with hlt | rfl
      · exact progress.delivers i hlt
      · exact hreply.symm
    · exact Notifier.timeless_records records progress.remembers ""

/-- A notifier is told of all that is pending, as long as messages are delivered. -/
theorem keeps_announceAll (hosts : Hosts rules key along listed pattern due)
    (lasting : Lasting key due along) (channel : κ) (providers : List Provider)
    (hdue : due = told ++ providers.filterMap fun provider =>
      (pending? key.marker provider).map fun ip => (provider, ip))
    (progress : Progress key along pattern told (origin.told "" told.length) r trail) :
    (announceAll channel key.marker providers : Pass δ κ Notifier Unit).Keeps rules
      (fun _ => Progress key along pattern due (origin.told "" due.length)) r trail := by
  induction providers generalizing told r trail with
  | nil =>
    rw [List.filterMap_nil, List.append_nil] at hdue
    subst hdue
    exact keeps_pure progress
  | cons provider rest ih =>
    rw [announceAll]
    cases hpending : pending? key.marker provider with
    | none =>
      simp only [List.filterMap_cons, hpending, Option.map_none] at hdue
      exact ih hdue progress
    | some ip =>
      simp only [List.filterMap_cons, hpending, Option.map_some] at hdue
      refine Keeps.bind (keeps_announce hosts lasting channel hdue progress)
        fun _ r₁ trail₁ progress₁ => ?_
      have hlength : (told ++ [(provider, ip)]).length = told.length + 1 := List.length_append
      rw [← Notifier.told_succ, ← hlength] at progress₁
      exact ih (by rw [hdue, List.append_assoc, List.singleton_append]) progress₁

/-! ### The pass -/

theorem keeps_fetch {α : Type} (admits : Admits rules listed pattern)
    (survives : Estate.Survives NotifierSpec NotifierStatus key (along told))
    (sent : List (String × Except ChannelError Unit)) {kind type reason name : String}
    {read : (key : ObjectKey) → Pass δ κ Notifier (Except LookupError α)}
    (reads : (read ⟨r.metadata.space, name⟩).Keeps rules
      (fun reply r' trail' => r' = r ∧ reply.isOk = true ∧ Ongoing key along told sent r trail') r
      trail) :
    (fetch kind type reason name read).Keeps rules
      (fun _ r' trail' => ∃ sent', r.Records type (holds reason (Wording.found kind name)) sent' r' ∧
        Ongoing key along told sent r' trail') r trail := by
  let looked (reply : Except LookupError α) (r : Notifier) (trail : Trail δ κ) : Prop :=
    reply.isOk = true ∧ Ongoing key along told sent r trail
  have follows (reply : Except LookupError α) : Follows rules (looked reply) fun _ => looked reply :=
    (follows admits survives sent).knowing _
  have misses (e : LookupError) (sent' : Bool) (r' : Notifier) (trail' : Trail δ κ)
      (_ : r.Records type (Pass.fails reason e.text) sent' r') (h : looked (.error e) r' trail') :
      rules.fails trail' := by
    cases h.1
  apply Keeps.mono (Follows.fetch reads (fun value => follows (.ok value))
    (fun e => follows (.error e)) misses)
  intro value r' trail' ⟨sent', records, h⟩
  exact ⟨sent', records, h.2⟩

theorem keeps_declare (admits : Admits rules listed pattern)
    (survives : Estate.Survives NotifierSpec NotifierStatus key (along told))
    (ongoing : Ongoing key along told sent r trail) :
    (ensureDeclared : Pass δ κ Notifier Unit).Keeps rules
      (fun _ r' trail' =>
        (∃ now, r' = r.put (onConditions (Condition.ensureTypes now Condition.declaredTypes)
          r.statusOrInitial).1) ∧ Ongoing key along told sent r' trail') r trail := by
  refine admits.keeps_ask_bind nofun fun now trail₁ relays => ?_
  refine Keeps.bind ((follows admits survives sent).change (exact_ensureTypes now _)
    (ongoing.aside relays (same_of_now relays) rfl)) ?_
  rintro _ r₂ trail₂ ⟨hr₂, ongoing₂⟩
  exact keeps_pure ⟨⟨now, hr₂⟩, ongoing₂⟩

theorem keeps_note (admits : Admits rules listed pattern)
    (survives : Estate.Survives NotifierSpec NotifierStatus key (along told))
    (ongoing : Ongoing key along told sent r trail) :
    (do
      let _ ← patchStatus (putNotifierGeneration (some (← get).generation))
      return .awaitChange : Pass δ κ Notifier Next).Keeps rules
      (fun next r' trail' => next = .awaitChange ∧
        r' = r.put (putNotifierGeneration (some r.generation) r.statusOrInitial).1 ∧
        Ongoing key along told sent r' trail') r trail := by
  refine keeps_get_bind (Keeps.bind ((follows admits survives sent).change
    (exact_putNotifierGeneration _) ongoing) ?_)
  rintro _ r' trail' ⟨hr', ongoing'⟩
  exact keeps_pure ⟨rfl, hr', ongoing'⟩

/-- A pass over a ready notifier builds its channel and lists the providers, however it tells of
them. -/
theorem keeps_overNotifier_of {gets : Next → Notifier → Trail δ κ → Prop}
    (admits : Admits rules listed pattern)
    (survives : Estate.Survives NotifierSpec NotifierStatus key (along []))
    (ready : r.statusOrInitial.isReady = true) (ongoing : Ongoing key along [] [] r trail)
    (tells : ∀ channel r' trail', Notifier.timeless r' = Notifier.timeless (r.connected "") →
      Ongoing key along [] [] r' trail' →
      (do
        announceAll channel key.marker (listed.filter fun provider => provider.refersTo key)
        let _ ← patchStatus (putNotifierGeneration (some (← get).generation))
        return .awaitChange : Pass δ κ Notifier Next).Keeps rules gets r' trail') :
    (overNotifier key : Pass δ κ Notifier Next).Keeps rules gets r trail := by
  refine Keeps.bind (keeps_declare admits survives ongoing) ?_
  rintro _ r₁ trail₁ ⟨⟨now, rfl⟩, ongoing₁⟩
  have same₁ := Notifier.timeless_declared (r := r) rfl now ""
  refine Keeps.bind (keeps_get_bind (keeps_fetch admits survives [] ⟨admits.allows _ _, ?_⟩)) ?_
  · intro reply trail' answer
    have relays := admits.answers _ (.getSecret _) _ _ nofun answer
    exact ⟨rfl, relays.1.1, ongoing₁.aside relays relays.1.2 rfl⟩
  rintro secret r₂ trail₂ ⟨_, records₂, ongoing₂⟩
  have same₂ := Notifier.timeless_records records₂ same₁ ""
  refine Keeps.bind (keeps_get_bind (keeps_fetch admits survives [] ⟨admits.allows _ _, ?_⟩)) ?_
  · intro reply trail' answer
    have relays := admits.answers _ (.getConfigMap _) _ _ nofun answer
    exact ⟨rfl, relays.1.1, ongoing₂.aside relays relays.1.2 rfl⟩
  rintro configMap r₃ trail₃ ⟨_, records₃, ongoing₃⟩
  rw [show r₂.spec = r.spec from congrArg (·.spec) same₂] at records₃
  have same₃ := Notifier.timeless_records records₃ same₂ ""
  refine keeps_get_bind (admits.keeps_ask_bind nofun fun reply trail₄ relays₄ => ?_)
  have ongoing₄ := ongoing₃.aside relays₄ relays₄.1.2 rfl
  cases reply with
  | error e => cases relays₄.1.1
  | ok channel =>
    refine Keeps.bind ((follows admits survives []).recordCreation channel ongoing₄) ?_
    rintro channel r₅ trail₅ ⟨-, _, records₅, ongoing₅⟩
    rw [Notifier.creation_eq same₃] at records₅
    have same₅ : Notifier.timeless r₅ = Notifier.timeless (r.connected "") :=
      Notifier.timeless_records records₅ same₃ ""
    have ready₅ : r₅.statusOrInitial.isReady = true :=
      (Notifier.isReady_of_timeless same₅).trans ready
    refine keeps_get_bind ?_
    rw [ready₅]
    refine keeps_get_bind ?_
    rw [Marker.ofNotifier_eq ongoing₅.own]
    refine admits.keeps_ask_bind nofun fun reply trail₆ relays₆ => ?_
    obtain rfl : reply = .ok listed := relays₆.1.1
    exact tells channel r₅ trail₆ same₅ (ongoing₅.aside relays₆ relays₆.1.2 rfl)

/-- A pass over a ready notifier tells it of what is due. -/
theorem keeps_overNotifier
    (hosts : Hosts rules key along listed pattern (dueAmong key key.marker listed))
    (lasting : Lasting key (dueAmong key key.marker listed) along)
    (ready : r.statusOrInitial.isReady = true) (ongoing : Ongoing key along [] [] r trail) :
    (overNotifier key : Pass δ κ Notifier Next).Keeps rules
      (fun next r' trail' => next = .awaitChange ∧
        Progress key along pattern (dueAmong key key.marker listed)
          (r.briefed "" (dueAmong key key.marker listed).length) r' trail') r trail := by
  refine keeps_overNotifier_of hosts.toAdmits (lasting.survives []) ready ongoing ?_
  intro channel r₅ trail₅ same₅ ongoing₅
  have progress : Progress key along pattern [] (r.connected "") r₅ trail₅ :=
    ⟨ongoing₅, by simp, same₅⟩
  refine Keeps.bind (keeps_announceAll hosts lasting channel _ rfl progress) ?_
  rintro _ r₆ trail₆ progress₆
  apply Keeps.mono (keeps_note hosts.toAdmits (lasting.survives _) progress₆.toOngoing)
  rintro next r₇ trail₇ ⟨hnext, hr₇, ongoing₇⟩
  exact ⟨hnext, ongoing₇, progress₆.delivers,
    hr₇ ▸ Notifier.timeless_noted progress₆.remembers⟩

end Round

end DynamicDns
