import DynamicDns.Proofs.Pass.Course
import DynamicDns.Proofs.Pass.Phase
import DynamicDns.Proofs.Pass.Plan
import DynamicDns.Proofs.Pass.Recording
import DynamicDns.Proofs.Run.Answer

/-!
# A provider pass stops at the first failure

A trail is what a pass over a provider has done to the cluster and which calls it made, while others
leave the status of the provider alone. As long as all calls succeed the pass runs its errands in
order, and what it remembers of the provider is what is stored (`Underway`). Once a call failed nothing
is left to do but to record what could not be looked up or built (`Faltered`). So the trail of every
pass is one of a pass that stops at its first failure (`provider_stops_at_failure`).
-/

namespace DynamicDns

variable {δ κ : Type}

/-- A call is answered, and then others change the cluster but for the status of the provider with a
key. -/
def Trail.Continues (scope : Option String) (key : ObjectKey) (trail : Trail δ κ)
    (call : Call δ κ) (reply : call.Reply) (trail' : Trail δ κ) : Prop :=
  trail'.calls = trail.calls ++ [⟨call, reply⟩] ∧
    ∃ cluster, trail.cluster.Answers scope call reply cluster ∧
      Cluster.Undisturbed ProviderStatus key cluster trail'.cluster

namespace Cluster.Attached

variable {scope : Option String} {key : ObjectKey} {provider r : Provider}
  {trail trail' : Trail δ κ} {call : Call δ κ} {reply : call.Reply}

theorem continues (attached : Attached key provider r trail.cluster)
    (spares : call.Spares ProviderStatus)
    (continues : trail.Continues scope key call reply trail') :
    Attached key provider r trail'.cluster := by
  obtain ⟨-, cluster, answers, undisturbed⟩ := continues
  exact (attached.answers spares answers).undisturbed undisturbed

theorem patched (attached : Attached key provider r trail.cluster) (status : ProviderStatus)
    {reply : Except Failure Unit}
    (continues : trail.Continues scope key
      (.patchStatus .provider key (Pass.statusPatch r.status status)) reply trail') :
    match reply with
    | .ok () => Attached key provider (r.put status) trail'.cluster
    | .error _ => Attached key provider r trail'.cluster := by
  obtain ⟨-, cluster, answers, undisturbed⟩ := continues
  have hpatched := attached.patches status answers
  cases reply with
  | ok value => exact hpatched.undisturbed undisturbed
  | error failure => exact (hpatched ▸ attached).undisturbed undisturbed

end Cluster.Attached

namespace Pass

open Cluster (Attached)

structure Completed (provider : Provider) (calls : List (Answered δ κ)) (stored : Provider) :
    Prop where
  addresses : ∃ ip, calls.filterMap Answered.discovered? = [ip] ∧
    stored.statusOrInitial.publicIp = ip ∧ stored.statusOrInitial.providerIp = ip
  conditions : ∀ type ∈ Condition.declaredTypes, ∃ c,
    Condition.find? stored.conditions type = some c ∧ c.status = Condition.statusTrue ∧
      c.observedGeneration = some provider.generation
  generation : stored.statusOrInitial.observedGeneration = some provider.generation

/-- What is stored of a provider after a pass that failed. The verdict on a lookup or a construction is
there unless the store refused to write it. -/
structure Interrupted (key : ObjectKey) (provider : Provider) (calls : List (Answered δ κ))
    (stored : Provider) : Prop where
  generation : stored.statusOrInitial.observedGeneration =
    provider.statusOrInitial.observedGeneration
  verdict : (∀ answered ∈ calls, answered.PatchesStatus key → answered.succeeded = true) →
    ∀ answered ∈ calls, ∀ type reason message,
      answered.verdict? = some (type, reason, message) → ∃ c,
        Condition.find? stored.conditions type = some c ∧ c.status = Condition.statusFalse ∧
          c.reason = some reason ∧ c.message = some message ∧
          c.observedGeneration = some provider.generation

/-- A pass over a provider did what it had to do up to its first failure, and left what it found out
in the store. -/
structure FailStop (key : ObjectKey) (provider : Provider) (outcome : Outcome)
    (trail : Trail δ κ) : Prop where
  stops : StopsAtFailure key outcome.isOk trail.calls
  stored : ∃ stored : Provider, trail.cluster.stored? key = some stored ∧
    match outcome with
    | .ok next => next = .requeue provider.spec.retrySeconds ∧ Completed provider trail.calls stored
    | .error _ => Interrupted key provider trail.calls stored

namespace FailStop

variable {scope : Option String} {key : ObjectKey} {provider r : Provider}
  {errands : List (Answered δ κ)} {failed : Answered δ κ} {trail trail' : Trail δ κ}
  {call : Call δ κ} {reply : call.Reply}

def rules (δ κ : Type) (scope : Option String) (key : ObjectKey) (provider : Provider) :
    Program.Rules (@Call.Reply δ κ) (Trail δ κ) where
  allows _ _ := True
  answers := Trail.Continues scope key
  fails trail := ∀ failure, FailStop key provider (.error failure) trail

/-! ### Before and after a failure -/

structure Underway (key : ObjectKey) (provider : Provider) (errands : List (Answered δ κ))
    (r : Provider) (trail : Trail δ κ) : Prop where
  course : Course key errands trail.calls
  attached : Attached key provider r trail.cluster

/-- A pass that failed in an errand, and has written the status at most as often as this since. -/
structure Faltered (key : ObjectKey) (provider : Provider) (errands : List (Answered δ κ))
    (failed : Answered δ κ) (writes : Nat) (r : Provider) (trail : Trail δ κ) : Prop where
  calls : ∃ earlier later, trail.calls = earlier ++ failed :: later ∧ Course key errands earlier ∧
    (∀ answered ∈ later, answered.succeeded = true ∧
      (answered.call.act? = none ∨ answered.PatchesStatus key)) ∧
    (later.filter (·.call.act?.isSome)).length ≤ writes
  attached : Attached key provider r trail.cluster

def Ran (key : ObjectKey) (provider : Provider) (errands : List (Answered δ κ))
    (answered : Answered δ κ) (r : Provider) (trail : Trail δ κ) : Prop :=
  if answered.succeeded = true then Underway key provider (errands ++ [answered]) r trail
  else Faltered key provider errands answered 0 r trail

def Unobserved (provider r : Provider) : Prop :=
  r.statusOrInitial.observedGeneration = provider.statusOrInitial.observedGeneration

theorem verdict?_eq_none {answered : Answered δ κ} (h : answered.succeeded = true) :
    answered.verdict? = none := by
  obtain ⟨call, reply⟩ := answered
  cases call with
  | getSecret | getConfigMap | createClient =>
    cases reply with
    | ok value => rfl
    | error e => cases h
  | _ => rfl

theorem Harmless.act?_eq_none (harmless : call.Harmless) : call.act? = none := by
  cases call with
  | now | record => rfl
  | _ => cases harmless

theorem Harmless.succeeded (harmless : call.Harmless) (reply : call.Reply) :
    (⟨call, reply⟩ : Answered δ κ).succeeded = true := by
  cases call with
  | now | record => rfl
  | _ => cases harmless

namespace Underway

theorem continues (underway : Underway key provider errands r trail)
    (spares : call.Spares ProviderStatus)
    (hcontinues : trail.Continues scope key call reply trail')
    (succeeded : (⟨call, reply⟩ : Answered δ κ).succeeded = true)
    (writes : call.errand? = none → call.act? = none) :
    Underway key provider
      (errands ++ [(⟨call, reply⟩ : Answered δ κ)].filter (·.call.errand?.isSome)) r trail' := by
  refine ⟨?_, underway.attached.continues spares hcontinues⟩
  rw [hcontinues.1]
  exact underway.course.append (fun hnone => .inl (writes hnone)) succeeded

theorem aside (underway : Underway key provider errands r trail) (harmless : call.Harmless)
    (hcontinues : trail.Continues scope key call reply trail') :
    Underway key provider errands r trail' := by
  have hcontinued := underway.continues (Call.spares harmless.patchless) hcontinues
    (Harmless.succeeded harmless reply) fun _ => Harmless.act?_eq_none harmless
  have hnone : call.errand? = none := by
    cases call with
    | now | record => rfl
    | _ => cases harmless
  simpa [hnone] using hcontinued

theorem patched (underway : Underway key provider errands r trail) {status : ProviderStatus}
    (hcontinues : trail.Continues scope key
      (.patchStatus .provider key (statusPatch r.status status)) (.ok ()) trail') :
    Underway key provider errands (r.put status) trail' := by
  refine ⟨?_, underway.attached.patched status hcontinues⟩
  rw [hcontinues.1]
  let written : Answered δ κ :=
    ⟨.patchStatus .provider key (statusPatch r.status status), .ok ()⟩
  have writes : written.call.errand? = none → written.call.act? = none ∨
      written.PatchesStatus key := fun _ => .inr ⟨_, rfl⟩
  have happended := underway.course.append writes rfl
  exact (List.append_nil errands) ▸ happended

theorem falters (underway : Underway key provider errands r trail)
    (spares : call.Spares ProviderStatus)
    (hcontinues : trail.Continues scope key call reply trail') :
    Faltered key provider errands ⟨call, reply⟩ 0 r trail' := by
  refine ⟨⟨trail.calls, [], hcontinues.1, underway.course, ?_, le_rfl⟩, ?_⟩
  · exact fun _ h => absurd h List.not_mem_nil
  · exact underway.attached.continues spares hcontinues

theorem ran (underway : Underway key provider errands r trail)
    (spares : call.Spares ProviderStatus) (herrand : call.errand?.isSome = true)
    (hcontinues : trail.Continues scope key call reply trail') :
    Ran key provider errands ⟨call, reply⟩ r trail' := by
  rw [Ran]
  split
  · rename_i succeeded
    have happended := underway.continues spares hcontinues succeeded fun hnone => by
      rw [hnone] at herrand
      cases herrand
    simpa [List.filter_cons, herrand] using happended
  · exact underway.falters spares hcontinues

/-- A pass stops where a status could not be written. -/
theorem refused (underway : Underway key provider errands r trail) (planned : Planned errands)
    (unobserved : Unobserved provider r) {status : ProviderStatus} {refusal : Failure}
    (hcontinues : trail.Continues scope key
      (.patchStatus .provider key (statusPatch r.status status)) (.error refusal) trail')
    (failure : Failure) : FailStop key provider (.error failure) trail' := by
  have attached : Attached key provider r trail'.cluster :=
    underway.attached.patched status hcontinues
  let last : Answered δ κ :=
    ⟨.patchStatus .provider key (statusPatch r.status status), .error refusal⟩
  refine ⟨?_, ?_⟩
  · rw [hcontinues.1]
    refine underway.course.stopsAtFailure_of_failed ?_ rfl (fun _ => ⟨_, rfl⟩)
      (fun _ h => absurd h List.not_mem_nil) (Nat.zero_le 1)
    exact (List.append_nil errands).symm ▸ planned
  · obtain ⟨stored, found, hstored⟩ := attached.agrees
    refine ⟨stored, found, ?_, fun accepted => ?_⟩
    · rw [hstored]
      exact unobserved
    · have hlast : last ∈ trail'.calls := by
        rw [hcontinues.1]
        exact List.mem_append_right _ List.mem_cons_self
      cases accepted last hlast ⟨_, rfl⟩

end Underway

namespace Faltered

variable {writes : Nat}

theorem continues (faltered : Faltered key provider errands failed writes r trail)
    (harmless : call.Harmless) (hcontinues : trail.Continues scope key call reply trail') :
    Faltered key provider errands failed writes r trail' := by
  obtain ⟨⟨earlier, later, hcalls, course, aftermath, hwrites⟩, attached⟩ := faltered
  have hnone : call.act? = none := Harmless.act?_eq_none harmless
  refine ⟨⟨earlier, later ++ [⟨call, reply⟩], ?_, course, fun answered h => ?_, ?_⟩,
    attached.continues (Call.spares harmless.patchless) hcontinues⟩
  · rw [hcontinues.1, hcalls, List.append_assoc, List.cons_append]
  · rcases List.mem_append.1 h with h | h
    · exact aftermath answered h
    · rw [List.mem_singleton.1 h]
      exact ⟨Harmless.succeeded harmless reply, .inl hnone⟩
  · rw [List.filter_append, List.filter_cons_of_neg (by simp [hnone])]
    simpa using hwrites

theorem patched (faltered : Faltered key provider errands failed 0 r trail)
    {status : ProviderStatus}
    (hcontinues : trail.Continues scope key
      (.patchStatus .provider key (statusPatch r.status status)) (.ok ()) trail') :
    Faltered key provider errands failed 1 (r.put status) trail' := by
  obtain ⟨⟨earlier, later, hcalls, course, aftermath, hwrites⟩, attached⟩ := faltered
  let written : Answered δ κ :=
    ⟨.patchStatus .provider key (statusPatch r.status status), .ok ()⟩
  refine ⟨⟨earlier, later ++ [written], ?_, course, fun answered h => ?_, ?_⟩,
    attached.patched status hcontinues⟩
  · rw [hcontinues.1, hcalls, List.append_assoc, List.cons_append]
  · rcases List.mem_append.1 h with h | h
    · exact aftermath answered h
    · rw [List.mem_singleton.1 h]
      exact ⟨rfl, .inr ⟨_, rfl⟩⟩
  · rw [List.filter_append, List.eq_nil_of_length_eq_zero (Nat.le_zero.1 hwrites)]
    exact List.length_filter_le _ _

/-- A pass stops after a failure, once what there is to record of it is remembered. -/
theorem failStop (faltered : Faltered key provider errands failed writes r trail)
    (planned : Planned (errands ++ [failed])) (herrand : failed.call.errand?.isSome = true)
    (hfailed : failed.succeeded = false)
    (hwrites : writes = 0 ∨ writes = 1 ∧ failed.verdict?.isSome = true)
    (unobserved : Unobserved provider r)
    (verdict : ∀ type reason message, failed.verdict? = some (type, reason, message) →
      r.Reports type (fails reason message))
    (failure : Failure) : FailStop key provider (.error failure) trail := by
  obtain ⟨⟨earlier, later, hcalls, course, aftermath, hlength⟩, attached⟩ := faltered
  refine ⟨?_, ?_⟩
  · rw [hcalls]
    refine course.stopsAtFailure_of_failed ?_ hfailed (fun hnone => ?_) (fun answered h => ?_) ?_
    · simpa [List.filter_cons, herrand] using planned
    · rw [hnone] at herrand
      cases herrand
    · rcases hwrites with rfl | ⟨rfl, hverdict⟩
      · have hnil := List.eq_nil_of_length_eq_zero (Nat.le_zero.1 hlength)
        have hnone := List.filter_eq_nil_iff.1 hnil answered h
        exact .inl (Option.not_isSome_iff_eq_none.1 hnone)
      · exact (aftermath answered h).2.imp_right fun patches => ⟨hverdict, patches⟩
    · exact hlength.trans (by rcases hwrites with rfl | ⟨rfl, -⟩ <;> decide)
  · obtain ⟨stored, found, hstored⟩ := attached.agrees
    refine ⟨stored, found, ?_, fun _ answered h type reason message hverdict => ?_⟩
    · rw [hstored]
      exact unobserved
    · rw [hcalls] at h
      have hanswered : answered = failed := by
        rcases List.mem_append.1 h with h | h
        · rw [verdict?_eq_none (course.succeeded answered h)] at hverdict
          cases hverdict
        · rcases List.mem_cons.1 h with h | h
          · exact h
          · rw [verdict?_eq_none (aftermath answered h).1] at hverdict
            cases hverdict
      subst hanswered
      obtain ⟨c, hfound, meets⟩ := verdict type reason message hverdict
      rw [attached.resembles.generation] at meets
      refine ⟨c, ?_, Condition.meets_fails.1 meets⟩
      rw [Resource.conditions, hstored]
      exact hfound

/-- A pass stops where the verdict could not be written. -/
theorem refused (faltered : Faltered key provider errands failed 0 r trail)
    (planned : Planned (errands ++ [failed])) (herrand : failed.call.errand?.isSome = true)
    (hfailed : failed.succeeded = false) (hverdict : failed.verdict?.isSome = true)
    (unobserved : Unobserved provider r) {status : ProviderStatus} {refusal : Failure}
    (hcontinues : trail.Continues scope key
      (.patchStatus .provider key (statusPatch r.status status)) (.error refusal) trail')
    (failure : Failure) : FailStop key provider (.error failure) trail' := by
  obtain ⟨⟨earlier, later, hcalls, course, aftermath, hlength⟩, attached⟩ := faltered
  let last : Answered δ κ :=
    ⟨.patchStatus .provider key (statusPatch r.status status), .error refusal⟩
  have hcalls' : trail'.calls = earlier ++ failed :: (later ++ [last]) := by
    rw [hcontinues.1, hcalls, List.append_assoc, List.cons_append]
  have attached' : Attached key provider r trail'.cluster := attached.patched status hcontinues
  refine ⟨?_, ?_⟩
  · rw [hcalls']
    refine course.stopsAtFailure_of_failed ?_ hfailed (fun hnone => ?_) (fun answered h => ?_) ?_
    · simpa [List.filter_cons, herrand] using planned
    · rw [hnone] at herrand
      cases herrand
    · rcases List.mem_append.1 h with h | h
      · exact (aftermath answered h).2.imp_right fun patches => ⟨hverdict, patches⟩
      · rw [List.mem_singleton.1 h]
        exact .inr ⟨hverdict, _, rfl⟩
    · rw [List.filter_append, List.eq_nil_of_length_eq_zero (Nat.le_zero.1 hlength)]
      exact List.length_filter_le _ _
  · obtain ⟨stored, found, hstored⟩ := attached'.agrees
    refine ⟨stored, found, ?_, fun accepted => ?_⟩
    · rw [hstored]
      exact unobserved
    · have hlast : last ∈ trail'.calls := by
        rw [hcontinues.1]
        exact List.mem_append_right _ List.mem_cons_self
      cases accepted last hlast ⟨_, rfl⟩

end Faltered

/-! ### The parts of the pass -/

theorem follows_underway (own : provider.key = key) (planned : Planned errands) :
    Follows (rules δ κ scope key provider)
      (fun r trail => Underway key provider errands r trail ∧ Unobserved provider r)
      (fun _ => Underway key provider errands) where
  clock r trail h := by
    have harmless : (Call.now : Call δ κ).Harmless := trivial
    exact ⟨trivial, fun now trail' continues => ⟨h.1.aside harmless continues, h.2⟩⟩
  sends r trail h status := by
    obtain ⟨underway, unobserved⟩ := h
    have hkey : r.key = key := underway.attached.resembles.key.trans own
    refine ⟨trivial, fun reply trail' continues => ?_⟩
    rw [hkey] at continues
    cases reply with
    | ok value => exact underway.patched continues
    | error refusal => exact underway.refused planned unobserved continues
  rests r trail h := by
    obtain ⟨⟨course, resembles, stored, found, inStep⟩, -⟩ := h
    exact ⟨course, ⟨resembles.metadata, resembles.spec⟩, stored, found, inStep.initialized⟩

theorem follows_faltered (own : provider.key = key) (planned : Planned (errands ++ [failed]))
    (herrand : failed.call.errand?.isSome = true) (hfailed : failed.succeeded = false)
    (hverdict : failed.verdict?.isSome = true) :
    Follows (rules δ κ scope key provider)
      (fun r trail => Faltered key provider errands failed 0 r trail ∧ Unobserved provider r)
      (fun _ => Faltered key provider errands failed 1) where
  clock r trail h := by
    have harmless : (Call.now : Call δ κ).Harmless := trivial
    exact ⟨trivial, fun now trail' continues => ⟨h.1.continues harmless continues, h.2⟩⟩
  sends r trail h status := by
    obtain ⟨faltered, unobserved⟩ := h
    have hkey : r.key = key := faltered.attached.resembles.key.trans own
    refine ⟨trivial, fun reply trail' continues => ?_⟩
    rw [hkey] at continues
    cases reply with
    | ok value => exact faltered.patched continues
    | error refusal =>
      exact faltered.refused planned herrand hfailed hverdict unobserved continues
  rests r trail h := by
    obtain ⟨⟨calls, resembles, stored, found, inStep⟩, -⟩ := h
    obtain ⟨earlier, later, hcalls, course, aftermath, hwrites⟩ := calls
    refine ⟨⟨earlier, later, hcalls, course, aftermath, hwrites.trans (Nat.zero_le 1)⟩, ?_⟩
    exact ⟨⟨resembles.metadata, resembles.spec⟩, stored, found, inStep.initialized⟩

/-- An errand that has no verdict fails, and so does the pass. -/
theorem keeps_proceedCounting_error {ε α β : Type} {category doing : String} {cause : ε → Cause}
    {e : ε} {f : α → Pass δ κ Provider β} {gets : β → Provider → Trail δ κ → Prop}
    (faltered : Faltered key provider errands failed 0 r trail)
    (planned : Planned (errands ++ [failed])) (herrand : failed.call.errand?.isSome = true)
    (hfailed : failed.succeeded = false) (hverdict : failed.verdict? = none)
    (unobserved : Unobserved provider r) :
    (proceedCounting category cause doing (.error e) >>= f).Keeps
      (rules δ κ scope key provider) gets r trail := by
  have hfails : (proceedCounting category cause doing (.error e) : Pass δ κ Provider α).Keeps
      (rules δ κ scope key provider) (fun _ _ _ => False) r trail := by
    refine keeps_ask_bind trivial fun reply trail' continues => keeps_throw _ ?_
    have harmless : (Call.record (.failed Kind.provider.name category) : Call δ κ).Harmless :=
      trivial
    have faltered' := faltered.continues harmless continues
    refine faltered'.failStop planned herrand hfailed (.inl rfl) unobserved ?_
    intro type reason message h
    rw [hverdict] at h
    cases h
  exact hfails.bind_of_false

/-- A lookup is an errand like others, and where it fails its verdict is recorded. -/
theorem keeps_lookup {α : Type} (own : provider.key = key) {kind type reason name : String}
    {read : (key : ObjectKey) → Pass δ κ Provider (Except LookupError α)}
    (answered : Except LookupError α → Answered δ κ)
    (reads : (read ⟨r.metadata.space, name⟩).Keeps (rules δ κ scope key provider)
      (fun reply r' trail' => r' = r ∧ Ran key provider errands (answered reply) r trail') r trail)
    (planned : ∀ reply, Planned (errands ++ [answered reply]))
    (herrand : ∀ reply, (answered reply).call.errand?.isSome = true)
    (hsucceeded : ∀ value, (answered (.ok value)).succeeded = true)
    (hfailed : ∀ e, (answered (.error e)).succeeded = false)
    (hverdict : ∀ e, (answered (.error e)).verdict? = some (type, reason, e.text))
    (unobserved : Unobserved provider r) :
    (fetch kind type reason name read).Keeps (rules δ κ scope key provider)
      (fun value r' trail' => (∃ now changes, r' = r.recorded now type changes) ∧
        r'.Reports type [.hold] ∧
          Underway key provider (errands ++ [answered (.ok value)]) r' trail') r trail := by
  let looked (reply : Except LookupError α) (r : Provider) (trail : Trail δ κ) : Prop :=
    (if reply.isOk then Underway key provider (errands ++ [answered reply]) r trail
      else Faltered key provider errands (answered reply) 0 r trail) ∧ Unobserved provider r
  have hreads : (read ⟨r.metadata.space, name⟩).Keeps (rules δ κ scope key provider)
      (fun reply r' trail' => r' = r ∧ looked reply r trail') r trail := by
    refine Keeps.mono reads fun reply r' trail' h => ?_
    obtain ⟨hr, ran⟩ := h
    rw [Ran] at ran
    cases reply with
    | ok value =>
      rw [if_pos (hsucceeded value)] at ran
      exact ⟨hr, ran, unobserved⟩
    | error e =>
      rw [if_neg (by rw [hfailed e]; exact Bool.false_ne_true)] at ran
      exact ⟨hr, ran, unobserved⟩
  have hshown (e : LookupError) : (answered (.error e)).verdict?.isSome = true := by
    rw [hverdict e]
    rfl
  have hfinds (value : α) : Follows (rules δ κ scope key provider) (looked (.ok value))
      (fun _ => Underway key provider (errands ++ [answered (.ok value)])) :=
    follows_underway own (planned (.ok value))
  have hmisses (e : LookupError) : Follows (rules δ κ scope key provider) (looked (.error e))
      (fun _ => Faltered key provider errands (answered (.error e)) 1) :=
    follows_faltered own (planned (.error e)) (herrand _) (hfailed e) (hshown e)
  have fails (e : LookupError) (sent : Bool) (r' : Provider) (trail' : Trail δ κ)
      (records : r.Records type (fails reason e.text) sent r')
      (faltered : Faltered key provider errands (answered (.error e)) 1 r' trail') :
      (rules δ κ scope key provider).fails trail' := by
    have reports := records.reports (Condition.settling_fails _ _ _)
    obtain ⟨⟨now, rfl⟩, -⟩ := records
    refine faltered.failStop (planned (.error e)) (herrand _) (hfailed e) (.inr ⟨rfl, hshown e⟩)
      unobserved fun type' reason' message' h => ?_
    rw [hverdict e] at h
    cases h
    exact reports
  refine Keeps.mono (Follows.fetch hreads hfinds hmisses fails) fun value r' trail' h => ?_
  obtain ⟨sent, records, underway⟩ := h
  have reports := records.reports (Condition.settling_holds _ _ _)
  obtain ⟨⟨now, rfl⟩, -⟩ := records
  exact ⟨⟨now, _, rfl⟩, reports.hold, underway⟩

theorem keeps_unlock (own : provider.key = key)
    (underway : Underway key provider errands r trail) (unobserved : Unobserved provider r)
    (planned : ∀ k reply, Planned (errands ++ [⟨.getSecret k, reply⟩])) :
    (fetchSecret : Pass δ κ Provider Secret).Keeps (rules δ κ scope key provider)
      (fun secret r' trail' => ∃ k,
        (∃ now changes, r' = r.recorded now Condition.typeSecret changes) ∧
          r'.Reports Condition.typeSecret [.hold] ∧
            Underway key provider (errands ++ [⟨.getSecret k, .ok secret⟩]) r' trail') r trail := by
  refine keeps_get_bind ?_
  let k : ObjectKey := ⟨r.metadata.space, Dependent.secretName r.spec⟩
  let answered (reply : Except LookupError Secret) : Answered δ κ := ⟨.getSecret k, reply⟩
  have spares : (Call.getSecret k : Call δ κ).Spares ProviderStatus := Call.spares trivial
  have reads : (ask (.getSecret k) : Pass δ κ Provider (Except LookupError Secret)).Keeps
      (rules δ κ scope key provider)
      (fun reply r' trail' => r' = r ∧ Ran key provider errands (answered reply) r trail') r
      trail :=
    ⟨trivial, fun reply trail' continues => ⟨rfl, underway.ran spares rfl continues⟩⟩
  exact Keeps.mono (keeps_lookup own answered reads (planned k) (fun _ => rfl) (fun _ => rfl)
    (fun _ => rfl) (fun _ => rfl) unobserved) fun _ _ _ h => ⟨k, h⟩

theorem keeps_equip (own : provider.key = key)
    (underway : Underway key provider errands r trail) (unobserved : Unobserved provider r)
    (planned : ∀ k reply, Planned (errands ++ [⟨.getConfigMap k, reply⟩])) :
    (fetchConfigMap : Pass δ κ Provider ConfigMap).Keeps (rules δ κ scope key provider)
      (fun configMap r' trail' => ∃ k,
        (∃ now changes, r' = r.recorded now Condition.typeConfigMap changes) ∧
          r'.Reports Condition.typeConfigMap [.hold] ∧
            Underway key provider (errands ++ [⟨.getConfigMap k, .ok configMap⟩]) r' trail') r trail := by
  refine keeps_get_bind ?_
  let k : ObjectKey := ⟨r.metadata.space, Dependent.configMapName r.spec⟩
  let answered (reply : Except LookupError ConfigMap) : Answered δ κ := ⟨.getConfigMap k, reply⟩
  have spares : (Call.getConfigMap k : Call δ κ).Spares ProviderStatus :=
    Call.spares trivial
  have reads : (ask (.getConfigMap k) : Pass δ κ Provider (Except LookupError ConfigMap)).Keeps
      (rules δ κ scope key provider)
      (fun reply r' trail' => r' = r ∧ Ran key provider errands (answered reply) r trail') r
      trail :=
    ⟨trivial, fun reply trail' continues => ⟨rfl, underway.ran spares rfl continues⟩⟩
  exact Keeps.mono (keeps_lookup own answered reads (planned k) (fun _ => rfl) (fun _ => rfl)
    (fun _ => rfl) (fun _ => rfl) unobserved) fun _ _ _ h => ⟨k, h⟩

theorem keeps_build (own : provider.key = key) (underway : Underway key provider errands r trail)
    (unobserved : Unobserved provider r) {service : String} {secret : Secret}
    {configMap : ConfigMap}
    (planned : ∀ created, Planned (errands ++ [⟨.createClient service secret configMap, created⟩])) :
    (do
      let created ← ask (.createClient service secret configMap)
      recordCreation .client ClientError.text created : Pass δ κ Provider δ).Keeps
      (rules δ κ scope key provider)
      (fun client r' trail' =>
        (∃ now changes, r' = r.recorded now Condition.typeClient changes) ∧
          r'.Reports Condition.typeClient [.hold] ∧
            Underway key provider (errands ++ [⟨.createClient service secret configMap,
              .ok client⟩]) r' trail') r trail := by
  refine keeps_ask_bind trivial fun created trail' continues => ?_
  have spares : (Call.createClient service secret configMap : Call δ κ).Spares ProviderStatus :=
    Call.spares trivial
  cases created with
  | ok client =>
    have underway' : Underway key provider
        (errands ++ [⟨.createClient service secret configMap, .ok client⟩]) r trail' :=
      underway.continues spares continues rfl id
    have follows : Follows (rules δ κ scope key provider) _ _ :=
      follows_underway own (planned (.ok client))
    refine Keeps.mono (follows.recordCreation client ⟨underway', unobserved⟩) ?_
    rintro _ r'' trail'' ⟨rfl, sent, records, underway''⟩
    have reports := records.client
    obtain ⟨⟨now, rfl⟩, -⟩ := records
    exact ⟨⟨now, _, rfl⟩, reports, underway''⟩
  | error e =>
    have faltered := underway.falters spares continues
    have follows : Follows (rules δ κ scope key provider) _ _ :=
      follows_faltered own (planned (.error e)) rfl rfl rfl
    refine follows.recordCreation_error e ⟨faltered, unobserved⟩ ?_
    intro sent r' trail'' records faltered'
    have reports := records.reports (Condition.settling_fails _ _ _)
    obtain ⟨⟨now, rfl⟩, -⟩ := records
    refine faltered'.failStop (planned (.error e)) rfl rfl (.inr ⟨rfl, rfl⟩) unobserved ?_
    intro type reason message h
    cases h
    exact reports

/-! ### The pass -/

def discovery (key : ObjectKey) (provider : Provider) (ip : String) : List (Answered δ κ) :=
  [⟨.getProvider key, .ok (some provider)⟩,
    ⟨.publicIp provider.spec.customIpProvider, .ok ip⟩]

def connection (key : ObjectKey) (provider : Provider) (ip : String) (k : ObjectKey)
    (secret : Secret) (k' : ObjectKey) (configMap : ConfigMap) (client : δ) :
    List (Answered δ κ) :=
  discovery key provider ip ++ [⟨.getSecret k, .ok secret⟩, ⟨.getConfigMap k', .ok configMap⟩,
    ⟨.createClient provider.spec.name secret configMap, .ok client⟩]

structure Connected (provider r : Provider) (ip : String) : Prop where
  unobserved : Unobserved provider r
  publicIp : r.statusOrInitial.publicIp = ip
  secret : r.Reports Condition.typeSecret [.hold]
  configMap : r.Reports Condition.typeConfigMap [.hold]
  client : r.Reports Condition.typeClient [.hold]

theorem keeps_finish (own : provider.key = key) {ip : String}
    (underway : Underway key provider errands r trail) (planned : Planned errands)
    (settled : (∀ answered ∈ errands, answered.pushed?.isNone = true) →
      ∀ ip ∈ errands.filterMap Answered.discovered?,
        ∀ served ∈ errands.filterMap Answered.served?, served = ip)
    (discovered : errands.filterMap Answered.discovered? = [ip])
    (connected : Connected provider r ip) (providerIp : r.statusOrInitial.providerIp = ip) :
    (do
      let _ ← patchStatus (putProviderGeneration (some (← get).generation))
      return .requeue (← get).spec.retrySeconds : Pass δ κ Provider Next).Keeps
      (rules δ κ scope key provider)
      (fun next _ trail' => FailStop key provider (.ok next) trail') r trail := by
  refine keeps_get_bind (Keeps.bind ((follows_underway own planned).change
    (exact_putProviderGeneration _) ⟨underway, connected.unobserved⟩) ?_)
  rintro _ _ trail' ⟨rfl, underway'⟩
  refine keeps_get_bind (keeps_pure ⟨?_, ?_⟩)
  · exact underway'.course.stopsAtFailure planned settled
  · obtain ⟨stored, found, hstored⟩ := underway'.attached.agrees
    have hgeneration := underway.attached.resembles.generation
    refine ⟨stored, found, ?_, ⟨ip, ?_, ?_, ?_⟩, fun type htype => ?_, ?_⟩
    · rw [Resource.put_spec, underway.attached.resembles.spec]
    · rw [← discovered, ← underway'.course.errands_eq]
      exact filterMap_eq_of_errands fun _ => discovered?_eq_none
    · rw [hstored]
      exact connected.publicIp
    · rw [hstored]
      exact providerIp
    · have reports : r.Reports type [.hold] := by
        simp only [Condition.declaredTypes, List.mem_cons, List.not_mem_nil, or_false] at htype
        rcases htype with rfl | rfl | rfl
        · exact connected.configMap
        · exact connected.secret
        · exact connected.client
      obtain ⟨c, hfound, meets⟩ := reports
      rw [hgeneration] at meets
      refine ⟨c, ?_, Condition.meets_hold.1 meets⟩
      rw [Resource.conditions, hstored]
      exact hfound
    · rw [hstored, ← hgeneration]
      rfl

/-- The address that is served is read and, if it is another one, the public address is pushed. -/
theorem keeps_compare (own : provider.key = key) {ip : String} {k k' : ObjectKey} {secret : Secret}
    {configMap : ConfigMap} {client : δ}
    (underway : Underway key provider (connection key provider ip k secret k' configMap client) r
      trail)
    (connected : Connected provider r ip) :
    (do
      let served ← proceedCounting Metrics.dnsFailure .client
        "failed to read IP from DNS provider" (← ask (.getIp client))
      let _ ← patchStatus (putProviderIp served)
      if ip ≠ served then
        proceedCounting Metrics.dnsFailure .client "failed to update IP at DNS provider"
          (← ask (.setIp client ip))
        ask (.record (.addressPushed key))
        let _ ← patchStatus (putProviderIp ip)
      let _ ← patchStatus (putProviderGeneration (some (← get).generation))
      return .requeue (← get).spec.retrySeconds : Pass δ κ Provider Next).Keeps
      (rules δ κ scope key provider)
      (fun next _ trail' => FailStop key provider (.ok next) trail') r trail := by
  refine keeps_ask_bind trivial fun reply trail₁ continues₁ => ?_
  have spares₁ : (Call.getIp client : Call δ κ).Spares ProviderStatus :=
    Call.spares trivial
  cases reply with
  | error e =>
    exact keeps_proceedCounting_error (underway.falters spares₁ continues₁)
      (planned_of_unpushed ⟨_, rfl⟩ rfl) rfl rfl rfl connected.unobserved
  | ok served =>
    let compared : List (Answered δ κ) :=
      connection key provider ip k secret k' configMap client ++ [⟨.getIp client, .ok served⟩]
    have underway₁ : Underway key provider compared r trail₁ :=
      underway.continues spares₁ continues₁ rfl id
    have planned₁ : Planned compared := planned_of_unpushed ⟨_, rfl⟩ rfl
    refine keeps_proceedCounting_ok ?_
    refine Keeps.bind ((follows_underway own planned₁).change (exact_putProviderIp served)
      ⟨underway₁, connected.unobserved⟩) ?_
    rintro _ _ trail₂ ⟨rfl, underway₂⟩
    have connected₂ : Connected provider (r.put (putProviderIp served r.statusOrInitial).1) ip :=
      ⟨connected.unobserved, connected.publicIp, connected.secret, connected.configMap,
        connected.client⟩
    by_cases hsame : ip = served
    · subst served
      rw [if_neg fun h => h rfl]
      refine keeps_finish own underway₂ planned₁ (fun _ => ?_) rfl connected₂ rfl
      intro other hother served hserved
      rw [List.mem_singleton.1 hother, List.mem_singleton.1 hserved]
    · rw [if_pos hsame]
      refine keeps_ask_bind trivial fun reply trail₃ continues₃ => ?_
      have spares₃ : (Call.setIp client ip : Call δ κ).Spares ProviderStatus :=
        Call.spares trivial
      have planned₃ (reply : Except ClientError Unit) :
          Planned (compared ++ [⟨.setIp client ip, reply⟩]) := by
        refine ⟨⟨[], rfl⟩, fun _ => ?_, fun other hother => ?_⟩
        · exact ⟨ip, List.mem_singleton.2 rfl, served, List.mem_singleton.2 rfl, Ne.symm hsame⟩
        · exact hother
      cases reply with
      | error e =>
        exact keeps_proceedCounting_error (underway₂.falters spares₃ continues₃)
          (planned₃ (.error e)) rfl rfl rfl connected₂.unobserved
      | ok value =>
        have underway₃ : Underway key provider (compared ++ [⟨.setIp client ip, .ok value⟩]) _
            trail₃ := underway₂.continues spares₃ continues₃ rfl id
        refine keeps_proceedCounting_ok (keeps_ask_bind trivial fun _ trail₄ continues₄ => ?_)
        have harmless : (Call.record (.addressPushed key) : Call δ κ).Harmless := trivial
        have underway₄ := underway₃.aside harmless continues₄
        refine Keeps.bind ((follows_underway own (planned₃ _)).change (exact_putProviderIp ip)
          ⟨underway₄, connected₂.unobserved⟩) ?_
        rintro _ _ trail₅ ⟨rfl, underway₅⟩
        refine keeps_finish own underway₅ (planned₃ _) (fun unpushed => ?_) rfl
          ⟨connected₂.unobserved, connected₂.publicIp, connected₂.secret, connected₂.configMap,
            connected₂.client⟩ rfl
        have hpush := unpushed ⟨.setIp client ip, .ok value⟩
          (List.mem_append_right _ List.mem_cons_self)
        cases hpush

theorem keeps_overProvider (own : provider.key = key)
    (start : Underway key provider [⟨.getProvider key, .ok (some provider)⟩] provider trail) :
    (overProvider key : Pass δ κ Provider Next).Keeps (rules δ κ scope key provider)
      (fun next _ trail' => FailStop key provider (.ok next) trail') provider trail := by
  refine keeps_get_bind (keeps_ask_bind trivial fun reply trail₁ continues₁ => ?_)
  have spares₁ : (Call.publicIp provider.spec.customIpProvider : Call δ κ).Spares
      ProviderStatus := Call.spares trivial
  cases reply with
  | error e =>
    exact keeps_proceedCounting_error (start.falters spares₁ continues₁)
      (planned_of_unpushed ⟨_, rfl⟩ rfl) rfl rfl rfl rfl
  | ok ip =>
    have underway₁ : Underway key provider (discovery key provider ip) provider trail₁ :=
      start.continues spares₁ continues₁ rfl id
    refine keeps_proceedCounting_ok ?_
    refine Keeps.bind ((follows_underway own (planned_of_unpushed ⟨_, rfl⟩ rfl)).change
      (exact_putPublicIp ip) ⟨underway₁, rfl⟩) ?_
    rintro _ _ trail₂ ⟨rfl, underway₂⟩
    refine Keeps.bind (keeps_unlock own underway₂ rfl fun k reply =>
      planned_of_unpushed ⟨_, rfl⟩ rfl) ?_
    rintro secret _ trail₃ ⟨k, ⟨now₃, changes₃, rfl⟩, secretHolds, underway₃⟩
    refine Keeps.bind (keeps_equip own underway₃ rfl fun k' reply =>
      planned_of_unpushed ⟨_, rfl⟩ rfl) ?_
    rintro configMap r₄ trail₄ ⟨k', ⟨now₄, changes₄, hr₄⟩, configMapHolds, underway₄⟩
    have unobserved₄ : Unobserved provider r₄ := hr₄ ▸ rfl
    have secretHolds₄ : r₄.Reports Condition.typeSecret [.hold] :=
      hr₄ ▸ secretHolds.recorded (by decide) now₄ changes₄
    have publicIp₄ : r₄.statusOrInitial.publicIp = ip := hr₄ ▸ rfl
    refine keeps_get_bind ?_
    rw [underway₄.attached.resembles.spec, ← bind_assoc]
    refine Keeps.bind (keeps_build own underway₄ unobserved₄ fun created =>
      planned_of_unpushed ⟨_, rfl⟩ rfl) ?_
    rintro client _ trail₅ ⟨⟨now₅, changes₅, rfl⟩, clientHolds, underway₅⟩
    refine keeps_compare own underway₅ ⟨unobserved₄, publicIp₄, ?_, ?_, clientHolds⟩
    · exact secretHolds₄.recorded (by decide) now₅ changes₅
    · exact configMapHolds.recorded (by decide) now₅ changes₅

theorem provider_obeys (own : provider.key = key) {cluster : Cluster}
    (found : cluster.stored? key = some provider) :
    (Pass.provider key : Calling δ κ Outcome).Obeys (rules δ κ scope key provider)
      (FailStop key provider) ⟨cluster, []⟩ := by
  refine ⟨trivial, fun reply trail continues => ?_⟩
  have start : Underway key provider [] provider (⟨cluster, []⟩ : Trail δ κ) :=
    ⟨Course.nil key, ⟨rfl, rfl⟩, provider, found, InStep.refl _⟩
  have spares : (Call.getProvider key : Call δ κ).Spares ProviderStatus :=
    Call.spares trivial
  cases reply with
  | error failure =>
    have faltered := start.falters spares continues
    refine faltered.failStop (planned_of_unpushed ⟨_, rfl⟩ rfl) rfl rfl (.inl rfl) rfl ?_ failure
    intro type reason message h
    cases h
  | ok read =>
    obtain ⟨-, cluster', ⟨refusal, outside, hanswer⟩, -⟩ := id continues
    have hread : read = cluster.stored? key :=
      Cluster.eq_of_reading_eq_ok (congrArg Prod.fst hanswer)
    rw [found] at hread
    subst hread
    have underway : Underway key provider [⟨.getProvider key, .ok (some provider)⟩] provider
        trail := start.continues spares continues rfl id
    exact (keeps_overProvider own underway).obeys (fun _ _ _ got => got)
      fun failure _ fails => fails failure

end FailStop

/-- A provider pass stops at its first failure. While nobody else writes the status of a stored
provider, its pass runs its errands in order and writes no other status; it pushes the address that it
discovered if and only if all went well until then and another address was served; it fails exactly
if a call failed, and then does nothing more than to record what it could not look up or build. What
it has found out is stored when it is over. -/
theorem provider_stops_at_failure (scope : Option String) {key : ObjectKey} {cluster : Cluster}
    {provider : Provider} (found : cluster.stored? key = some provider)
    (own : provider.key = key) {outcome : Outcome} {trail : Trail δ κ}
    (run : (Pass.provider key : Calling δ κ Outcome).Yields (Trail.Continues scope key)
      ⟨cluster, []⟩ outcome trail) :
    FailStop key provider outcome trail := by
  have obeys : (Pass.provider key : Calling δ κ Outcome).Obeys
      (FailStop.rules δ κ scope key provider) (FailStop key provider) ⟨cluster, []⟩ :=
    FailStop.provider_obeys own found
  obtain ⟨trail', ends, rfl⟩ := obeys.of_yields (fun s t => s = t)
    (fun s t request reply t' along _ answer => ⟨t', along ▸ answer, rfl⟩) rfl run
  exact ends

end Pass

theorem Trail.continues_answer (scope : Option String) (key : ObjectKey)
    (refusal : Option Failure) (outside : (call : Call δ κ) → call.Reply) (call : Call δ κ)
    (trail : Trail δ κ) :
    trail.Continues scope key call (trail.answer scope refusal outside call).1
      (trail.answer scope refusal outside call).2 :=
  ⟨rfl, _, ⟨refusal, outside, rfl⟩, rfl⟩

def Home.locked (call : Call Unit Unit) : call.Reply :=
  match call with
  | .getSecret k => .error (.notFound "Secret" k.name)
  | call => Home.outside "192.0.2.7" [] call

/-- A pass that finds no secret stops there. -/
theorem Pass.provider_stops_at_failure_at_home :
    let zone := Home.key "zone"
    let run := (Pass.provider zone).run
      (fun call (trail : Trail Unit Unit) => trail.answer none none Home.locked call)
      ⟨Home.cluster, []⟩
    Home.cluster.stored? zone = some Home.zone ∧ Home.zone.key = zone ∧
      run.2.calls.filterMap (·.call.errand?) = [.getProvider, .publicIp, .getSecret] ∧
        FailStop zone Home.zone run.1 run.2 := by
  intro zone run
  have found : Home.cluster.stored? zone = some Home.zone := rfl
  have own : Home.zone.key = zone := rfl
  have errands : run.2.calls.filterMap (·.call.errand?) = [.getProvider, .publicIp, .getSecret] := by
    decide +kernel
  refine ⟨found, own, errands, provider_stops_at_failure none found own ?_⟩
  exact Program.yields_run
    (fun call trail => Trail.continues_answer none zone none Home.locked call trail) _ _

end DynamicDns
