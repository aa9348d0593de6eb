import DynamicDns.Proofs.Pass.Duty
import DynamicDns.Proofs.Pass.Notifier
import DynamicDns.Proofs.Pass.Phase

/-!
# What it takes to observe a generation

A provider asks that the public address be discovered, its secret and its config map looked up and a
client built of them, and that the account serve the public address in the end. A notifier asks that a
channel be built likewise, and that it be told through it of each listed provider that refers to it and
is pending, which then is marked. A pass writes a generation only after all of this, for the resource
that it read at its start (`provider_answers`, `notifier_answers`).
-/

namespace DynamicDns

open Pass (Next Outcome keeps_get_bind keeps_ask_bind keeps_pure keeps_throw keeps_proceed_error pending?)

variable {δ κ : Type}

/-- All calls of a pass up to here went well, and brought about what the provider that it read at its
start asks for. -/
structure Provider.Reconciled (key : ObjectKey) (provider : Provider) (calls : List (Answered δ κ)) :
    Prop where
  began : calls.head? = some ⟨.getProvider key, .ok (some provider)⟩
  succeeded : ∀ answered ∈ calls, answered.succeeded = true
  steps : ∃ ip secret configMap client served,
    (⟨.publicIp provider.spec.customIpProvider, .ok ip⟩ : Answered δ κ) ∈ calls ∧
      ⟨.getSecret ⟨provider.metadata.space, provider.spec.secretName⟩, .ok secret⟩ ∈ calls ∧
      ⟨.getConfigMap ⟨provider.metadata.space, provider.spec.configMap⟩, .ok configMap⟩ ∈ calls ∧
      ⟨.createClient provider.spec.name secret configMap, .ok client⟩ ∈ calls ∧
      ⟨.getIp client, .ok served⟩ ∈ calls ∧ (ip ≠ served → ⟨.setIp client ip, .ok ()⟩ ∈ calls)

/-- All calls of a pass up to here went well, nobody was greeted, and they brought about what the
notifier that it read at its start asks for. -/
structure Notifier.Reconciled (key : ObjectKey) (notifier : Notifier) (calls : List (Answered δ κ)) :
    Prop where
  began : calls.head? = some ⟨.getNotifier key, .ok (some notifier)⟩
  succeeded : ∀ answered ∈ calls, answered.succeeded = true
  ungreeted : ∀ answered ∈ calls, ∀ channel, answered.call ≠ .greet channel
  steps : ∃ secret configMap channel listed,
    (⟨.getSecret ⟨notifier.metadata.space, notifier.spec.secretName⟩, .ok secret⟩ : Answered δ κ) ∈
        calls ∧
      ⟨.getConfigMap ⟨notifier.metadata.space, notifier.spec.configMap⟩, .ok configMap⟩ ∈ calls ∧
      ⟨.createChannel notifier.spec.name secret configMap, .ok channel⟩ ∈ calls ∧
      ⟨.listProviders, .ok listed⟩ ∈ calls ∧
      ∀ provider ∈ listed, provider.refersTo key = true →
        ∀ ip, pending? (Marker.ofNotifier notifier) provider = some ip →
          ⟨.notify channel (Wording.announcement ip provider.statusOrInitial.publicIp
            provider.key.name), .ok ()⟩ ∈ calls ∧
          ⟨.patchProvider provider.key ((Marker.ofNotifier notifier).patch ip), .ok ()⟩ ∈ calls

def Provider.duty (δ κ : Type) (key : ObjectKey) : Duty δ κ ProviderSpec ProviderStatus where
  lane := .provider key 0
  reading provider := ⟨.getProvider key, .ok (some provider)⟩
  Done := Provider.Reconciled key
  Through _ := True
  injective a b h := by
    cases h
    rfl

/-- What notifier passes answer for. One that has greeted is not through with its notifier yet. -/
def Notifier.duty (δ κ : Type) (key : ObjectKey) : Duty δ κ NotifierSpec NotifierStatus where
  lane := .notifier key
  reading notifier := ⟨.getNotifier key, .ok (some notifier)⟩
  Done := Notifier.Reconciled key
  Through next := next = .awaitChange
  injective a b h := by
    cases h
    rfl

namespace Pass

variable {scope : Option String} {key : ObjectKey}

/-! ### Provider passes -/

section

variable {provider r : Provider} {trail : Trail δ κ} {done : List (Answered δ κ)}

theorem keeps_observeProvider (own : provider.key = key)
    (minds : Minds key provider r trail.cluster)
    (progress : Progress ((Provider.duty δ κ key).reading provider) done trail.calls)
    (reconciled : provider.Reconciled key trail.calls) :
    (do
      let _ ← patchStatus (putProviderGeneration (some (← get).generation))
      return .requeue (← get).spec.retrySeconds : Pass δ κ Provider Next).Keeps
      ((Provider.duty δ κ key).rules scope key)
      (fun next _ trail' => (Provider.duty δ κ key).Ends key (.ok next) trail') r trail := by
  refine keeps_get_bind (Keeps.bind (Duty.keeps_observe own minds progress reconciled
    (fun _ => rfl) fun status h => ?_) fun _ r' trail' ends => keeps_get_bind (keeps_pure (ends _)))
  show status.observedGeneration = some r.generation
  simpa [putProviderGeneration] using h

theorem keeps_overProvider_of_minds (own : provider.key = key)
    (minds : Minds key provider provider trail.cluster)
    (progress : Progress ((Provider.duty δ κ key).reading provider) [] trail.calls) :
    (overProvider key : Pass δ κ Provider Next).Keeps ((Provider.duty δ κ key).rules scope key)
      (fun next _ trail' => (Provider.duty δ κ key).Ends key (.ok next) trail') provider trail := by
  let rules := (Provider.duty δ κ key).rules scope key
  have counts (trail : Trail δ κ) (event : Metrics.Event) :
      rules.allows trail (.record event) ∧
        ∀ trail', rules.answers trail (.record event) () trail' → rules.fails trail' :=
    ⟨Duty.permits_of_spares (Call.spares trivial), fun _ _ => trivial⟩
  refine keeps_get_bind (Duty.keeps_errand_bind (Call.spares trivial) minds progress ?_)
  intro discovered trail minds progress
  refine keeps_proceedCounting_bind (fun _ _ => counts trail _) fun ip hip => ?_
  subst hip
  refine Keeps.bind (Duty.keeps_write own minds (Progress.stable _ _) (progress ⟨rfl, by simp⟩)
    (.inl rfl) fun _ => rfl) ?_
  rintro _ r trail ⟨⟨minds, progress⟩, -⟩
  refine Keeps.bind (Duty.keeps_fetchSecret own minds progress) ?_
  rintro secret r trail ⟨minds, progress⟩
  refine Keeps.bind (Duty.keeps_fetchConfigMap own minds progress) ?_
  rintro configMap r trail ⟨minds, progress⟩
  refine keeps_get_bind ?_
  rw [minds.spec]
  refine Duty.keeps_errand_bind (Call.spares trivial) minds progress ?_
  intro created trail minds progress
  refine Keeps.bind ((Duty.tolerant _ scope own (ProgressIf.stable _ _ _)).recordCreation
    (fun _ _ _ => trivial) ⟨minds, progress⟩) ?_
  rintro client r trail ⟨rfl, minds, progress⟩
  refine Duty.keeps_errand_bind (Call.spares trivial) minds (progress ⟨rfl, by simp⟩) ?_
  intro reply trail minds progress
  refine keeps_proceedCounting_bind (fun _ _ => counts trail _) fun served hserved => ?_
  subst hserved
  refine Keeps.bind (Duty.keeps_write own minds (Progress.stable _ _) (progress ⟨rfl, by simp⟩)
    (.inl rfl) fun _ => rfl) ?_
  rintro _ r trail ⟨⟨minds, progress⟩, -⟩
  by_cases hsame : ip = served
  · subst served
    rw [if_neg fun h => h rfl]
    apply keeps_observeProvider own minds progress
    refine ⟨progress.began, fun answered h => (progress.clean answered h).1, ip, secret, configMap,
      client, ip, ?_, ?_, ?_, ?_, ?_, fun h => absurd rfl h⟩
    all_goals
      apply progress.done
      simp [Dependent.secretName, Dependent.configMapName]
  · rw [if_pos hsame]
    refine Duty.keeps_errand_bind (Call.spares trivial) minds progress ?_
    intro reply trail minds progress
    refine keeps_proceedCounting_bind (fun _ _ => counts trail _) fun value hvalue => ?_
    subst hvalue
    refine Duty.keeps_errand_bind (Call.spares trivial) minds (progress ⟨rfl, by simp⟩) ?_
    intro _ trail minds progress
    refine Keeps.bind (Duty.keeps_write own minds (Progress.stable _ _) (progress ⟨rfl, by simp⟩)
      (.inl rfl) fun _ => rfl) ?_
    rintro _ r trail ⟨⟨minds, progress⟩, -⟩
    apply keeps_observeProvider own minds progress
    refine ⟨progress.began, fun answered h => (progress.clean answered h).1, ip, secret, configMap,
      client, served, ?_, ?_, ?_, ?_, ?_, fun _ => ?_⟩
    all_goals
      apply progress.done
      simp [Dependent.secretName, Dependent.configMapName]

/-- However it is answered, a provider pass observes only what it has reconciled, and it does if it ends
well. -/
theorem provider_answers (scope : Option String) (key : ObjectKey) {cluster : Cluster}
    (kept : cluster.WellKept) :
    (Pass.provider key : Calling δ κ Outcome).Obeys ((Provider.duty δ κ key).rules scope key)
      ((Provider.duty δ κ key).Ends key) ⟨cluster, []⟩ := by
  have spares : (Call.getProvider key : Call δ κ).Spares ProviderStatus :=
    Call.spares trivial
  refine ⟨Duty.permits_of_spares spares, fun reply trail proceeds => ?_⟩
  obtain ⟨cluster', ⟨refusal, outside, hanswer⟩, -⟩ := id proceeds
  rcases reply with failure | _ | provider
  · exact Duty.ends_of_unread (by simp [Provider.duty]) proceeds _
  · exact Duty.ends_of_unread (by simp [Provider.duty]) proceeds _
  · have stored : cluster.stored? key = some provider :=
      (Cluster.eq_of_reading_eq_ok (congrArg Prod.fst hanswer)).symm
    have own : provider.key = key := kept.providers.keyOf_of_get? stored
    obtain ⟨minds, progress⟩ := Duty.begins spares stored ⟨rfl, by simp⟩ proceeds
    refine (keeps_overProvider_of_minds own minds progress).obeys (fun _ _ _ got => got) ?_
    intro failure trail' _ next other houtcome
    cases houtcome

end

/-! ### Notifier passes -/

section

variable {notifier r : Notifier} {trail : Trail δ κ} {done : List (Answered δ κ)}

theorem keeps_greet_of_minds {channel : κ} (own : notifier.key = key)
    (minds : Minds key notifier r trail.cluster) :
    (greet channel : Pass δ κ Notifier Unit).Keeps ((Notifier.duty δ κ key).rules scope key)
      (fun _ _ _ => True) r trail := by
  refine Duty.keeps_sparing_bind (Call.spares trivial) minds fun reply trail minds => ?_
  refine Duty.keeps_sparing_bind (Call.spares trivial) minds fun _ trail minds => ?_
  cases reply with
  | ok value =>
    rw [stamped_bind]
    refine Duty.keeps_sparing_bind (Call.spares trivial) minds fun now trail minds => keeps_get_bind ?_
    refine Keeps.bind (Duty.keeps_write own minds stable_true trivial (.inl rfl) fun _ => rfl) ?_
    exact fun _ _ _ _ => keeps_pure trivial
  | error e =>
    refine Keeps.bind ((Duty.tolerant _ scope own stable_true).recordCondition _ _ ⟨minds, trivial⟩)
      fun _ r trail _ => ?_
    exact keeps_proceed_error trivial

def told (channel : κ) (notifier : Notifier) (provider : Provider) (ip : String) :
    List (Answered δ κ) :=
  [⟨.notify channel (Wording.announcement ip provider.statusOrInitial.publicIp provider.key.name),
      .ok ()⟩,
    ⟨.patchProvider provider.key ((Marker.ofNotifier notifier).patch ip), .ok ()⟩]

def toldAll (channel : κ) (notifier : Notifier) (providers : List Provider) :
    List (Answered δ κ) :=
  providers.flatMap fun provider =>
    ((pending? (Marker.ofNotifier notifier) provider).map (told channel notifier provider)).getD []

theorem mem_toldAll {channel : κ} {providers : List Provider} {provider : Provider} {ip : String}
    {answered : Answered δ κ} (hprovider : provider ∈ providers)
    (hpending : pending? (Marker.ofNotifier notifier) provider = some ip)
    (h : answered ∈ told channel notifier provider ip) :
    answered ∈ toldAll channel notifier providers := by
  apply List.mem_flatMap.2 ⟨provider, hprovider, _⟩
  rw [hpending]
  exact h

theorem keeps_announce_of_minds {channel : κ} {provider : Provider} {ip : String}
    {reading : Answered δ κ} (own : notifier.key = key)
    (minds : Minds key notifier r trail.cluster) (progress : Progress reading done trail.calls) :
    (announce channel (Marker.ofNotifier notifier) provider ip : Pass δ κ Notifier Unit).Keeps
      ((Notifier.duty δ κ key).rules scope key)
      (fun _ r' trail' => Minds key notifier r' trail'.cluster ∧
        Progress reading (done ++ told channel notifier provider ip) trail'.calls) r trail := by
  refine Duty.keeps_errand_bind (Call.spares trivial) minds progress ?_
  intro reply trail minds progress
  cases reply with
  | ok value =>
    refine Duty.keeps_errand_bind (Call.spares trivial) minds (progress ⟨rfl, by simp⟩) ?_
    intro _ trail minds progress
    refine Keeps.bind ((Duty.tolerant _ scope own (Progress.stable _ _)).recordCondition _ _
      ⟨minds, progress ⟨rfl, by simp⟩⟩) ?_
    rintro _ r trail ⟨minds, progress⟩
    refine Duty.keeps_errand_bind (Call.spares_patchProvider _ _) minds progress ?_
    intro reply trail minds progress
    cases reply with
    | error failure => exact keeps_throw _ trivial
    | ok value =>
      refine keeps_pure ⟨minds, (progress ⟨rfl, by simp⟩).mono ?_⟩
      intro answered hanswered
      simp only [told, List.mem_append, List.mem_cons, List.not_mem_nil, or_false] at hanswered ⊢
      tauto
  | error e =>
    refine Duty.keeps_sparing_bind (Call.spares trivial) minds fun _ trail minds => ?_
    dsimp only
    rw [stamped_bind]
    refine Duty.keeps_sparing_bind (Call.spares trivial) minds fun now trail minds => keeps_get_bind ?_
    refine Keeps.bind (Duty.keeps_write own minds stable_true trivial (.inl rfl) fun _ => rfl) ?_
    intro _ r trail _
    exact keeps_proceed_error trivial

theorem keeps_announceAll_of_minds {channel : κ} {reading : Answered δ κ} (own : notifier.key = key)
    (providers : List Provider) (minds : Minds key notifier r trail.cluster)
    (progress : Progress reading done trail.calls) :
    (announceAll channel (Marker.ofNotifier notifier) providers : Pass δ κ Notifier Unit).Keeps
      ((Notifier.duty δ κ key).rules scope key)
      (fun _ r' trail' => Minds key notifier r' trail'.cluster ∧
        Progress reading (done ++ toldAll channel notifier providers) trail'.calls) r trail := by
  induction providers generalizing r trail done with
  | nil =>
    apply keeps_pure
    rw [toldAll, List.flatMap_nil, List.append_nil]
    exact ⟨minds, progress⟩
  | cons provider rest ih =>
    rw [announceAll, toldAll, List.flatMap_cons]
    cases pending? (Marker.ofNotifier notifier) provider with
    | none => exact ih minds progress
    | some ip =>
      refine Keeps.bind (keeps_announce_of_minds own minds progress) ?_
      rintro _ r trail ⟨minds, progress⟩
      rw [Option.map_some, Option.getD_some, ← List.append_assoc]
      exact ih minds progress

theorem keeps_observeNotifier (own : notifier.key = key)
    (minds : Minds key notifier r trail.cluster)
    (progress : Progress ((Notifier.duty δ κ key).reading notifier) done trail.calls)
    (reconciled : notifier.Reconciled key trail.calls) :
    (do
      let _ ← patchStatus (putNotifierGeneration (some (← get).generation))
      return .awaitChange : Pass δ κ Notifier Next).Keeps
      ((Notifier.duty δ κ key).rules scope key)
      (fun next _ trail' => (Notifier.duty δ κ key).Ends key (.ok next) trail') r trail := by
  refine keeps_get_bind (Keeps.bind (Duty.keeps_observe own minds progress reconciled
    (fun _ => rfl) fun status h => ?_) fun _ r' trail' ends => keeps_pure (ends _))
  show status.observedGeneration = some r.generation
  simpa [putNotifierGeneration] using h

theorem keeps_overNotifier_of_minds (own : notifier.key = key)
    (minds : Minds key notifier notifier trail.cluster)
    (progress : Progress ((Notifier.duty δ κ key).reading notifier) [] trail.calls) :
    (overNotifier key : Pass δ κ Notifier Next).Keeps ((Notifier.duty δ κ key).rules scope key)
      (fun next _ trail' => (Notifier.duty δ κ key).Ends key (.ok next) trail') notifier trail := by
  refine Keeps.bind (keeps_ensureDeclared (Duty.tolerant _ scope own (Progress.stable _ []))
    ⟨minds, progress⟩) ?_
  rintro _ r trail ⟨minds, progress⟩
  refine Keeps.bind (Duty.keeps_fetchSecret own minds progress) ?_
  rintro secret r trail ⟨minds, progress⟩
  refine Keeps.bind (Duty.keeps_fetchConfigMap own minds progress) ?_
  rintro configMap r trail ⟨minds, progress⟩
  refine keeps_get_bind ?_
  rw [minds.spec]
  refine Duty.keeps_errand_bind (Call.spares trivial) minds progress ?_
  intro created trail minds progress
  refine Keeps.bind ((Duty.tolerant _ scope own (ProgressIf.stable _ _ _)).recordCreation
    (fun _ _ _ => trivial) ⟨minds, progress⟩) ?_
  rintro channel r trail ⟨rfl, minds, progress⟩
  refine keeps_get_bind ?_
  cases r.statusOrInitial.isReady with
  | false =>
    refine Keeps.bind (keeps_greet_of_minds own minds) fun _ r trail _ => keeps_pure ?_
    intro next found houtcome through
    cases houtcome
    cases through
  | true =>
    have hmarker : Marker.ofNotifier r = Marker.ofNotifier notifier := by
      rw [Marker.ofNotifier, minds.metadata, Marker.ofNotifier]
    refine keeps_get_bind ?_
    rw [hmarker]
    refine Duty.keeps_errand_bind (Call.spares trivial) minds (progress ⟨rfl, by simp⟩) ?_
    intro reply trail minds progress
    cases reply with
    | error failure => exact keeps_throw_bind failure trivial
    | ok listed =>
      refine Keeps.bind (keeps_announceAll_of_minds own _ minds (progress ⟨rfl, by simp⟩)) ?_
      rintro _ r trail ⟨minds, progress⟩
      apply keeps_observeNotifier own minds progress
      refine ⟨progress.began, fun answered h => (progress.clean answered h).1,
        fun answered h => (progress.clean answered h).2, secret, configMap, channel, listed,
        ?_, ?_, ?_, ?_, ?_⟩
      rotate_right
      · intro provider hlisted hrefers ip hpending
        have hmem : provider ∈ listed.filter fun provider => provider.refersTo key :=
          List.mem_filter.2 ⟨hlisted, hrefers⟩
        have htold (answered : Answered δ κ) (h : answered ∈ told channel notifier provider ip) :
            answered ∈ trail.calls :=
          progress.done _ (List.mem_append_right _ (mem_toldAll hmem hpending h))
        constructor
        · exact htold _ (by simp [told])
        · exact htold _ (by simp [told])
      all_goals
        apply progress.done
        simp [Dependent.secretName, Dependent.configMapName]

/-- However it is answered, a notifier pass observes only what it has reconciled, and it does if it
ends well without having greeted. -/
theorem notifier_answers (scope : Option String) (key : ObjectKey) {cluster : Cluster}
    (kept : cluster.WellKept) :
    (Pass.notifier key : Calling δ κ Outcome).Obeys ((Notifier.duty δ κ key).rules scope key)
      ((Notifier.duty δ κ key).Ends key) ⟨cluster, []⟩ := by
  have spares : (Call.getNotifier key : Call δ κ).Spares NotifierStatus :=
    Call.spares trivial
  refine ⟨Duty.permits_of_spares spares, fun reply trail proceeds => ?_⟩
  obtain ⟨cluster', ⟨refusal, outside, hanswer⟩, -⟩ := id proceeds
  rcases reply with failure | _ | notifier
  · exact Duty.ends_of_unread (by simp [Notifier.duty]) proceeds _
  · exact Duty.ends_of_unread (by simp [Notifier.duty]) proceeds _
  · have stored : cluster.stored? key = some notifier :=
      (Cluster.eq_of_reading_eq_ok (congrArg Prod.fst hanswer)).symm
    have own : notifier.key = key := kept.notifiers.keyOf_of_get? stored
    obtain ⟨minds, progress⟩ := Duty.begins spares stored ⟨rfl, by simp⟩ proceeds
    refine (keeps_overNotifier_of_minds own minds progress).obeys (fun _ _ _ got => got) ?_
    intro failure trail' _ next other houtcome
    cases houtcome

end

end Pass

end DynamicDns
