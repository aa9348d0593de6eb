import DynamicDns.Proofs.Pass.Plan
import DynamicDns.Proofs.Run.Answer
import DynamicDns.Proofs.World.Observed

/-!
# What a pass answers for

A pass that writes for which generation a resource was observed answers for having done all that this
generation asks for. While nobody else writes that generation, what a pass remembers of it is what is
stored (`Minds`); and as long as it fails in nothing, what it has done is among its calls (`Progress`).
Writing conditions touches neither, so the lemmas here are about calls that do, and each part of a pass
is put together from them.
-/

namespace DynamicDns

open Pass (Next Outcome Tolerant statusPatch)

variable {δ κ σ τ α β : Type}

/-- What the passes over a resource answer for: in which lane they run, how one reads the resource, when
one has done all that the resource asks for, and with what one ends that is through with it. -/
structure Duty (δ κ σ τ : Type) where
  lane : Lane
  reading : Resource σ τ → Answered δ κ
  Done : Resource σ τ → List (Answered δ κ) → Prop
  Through : Next → Prop
  injective : Function.Injective reading

/-- A call is answered, and then others change the cluster but for a view of it. -/
def Trail.Proceeds (view : Cluster → β) (scope : Option String) (trail : Trail δ κ) (call : Call δ κ)
    (reply : call.Reply) (trail' : Trail δ κ) : Prop :=
  ∃ cluster, trail.cluster.Answers scope call reply cluster ∧ view trail'.cluster = view cluster ∧
    trail'.calls = trail.calls ++ [⟨call, reply⟩]

variable [Codec σ] [Status τ] [Observing τ] [Shelved σ τ]

namespace Duty

def Permits (duty : Duty δ κ σ τ) (scope : Option String) (key : ObjectKey) (trail : Trail δ κ)
    (call : Call δ κ) : Prop :=
  ∀ reply cluster, trail.cluster.Answers scope call reply cluster →
    cluster.observed τ key = trail.cluster.observed τ key ∨
      ∃ found, duty.Done found trail.calls ∧ cluster.observed τ key = some found.generation

def rules (duty : Duty δ κ σ τ) (scope : Option String) (key : ObjectKey) :
    Program.Rules (@Call.Reply δ κ) (Trail δ κ) where
  allows := duty.Permits scope key
  answers := Trail.Proceeds (·.observed τ key) scope
  fails _ := True

def Ends (duty : Duty δ κ σ τ) (key : ObjectKey) (outcome : Outcome) (trail : Trail δ κ) : Prop :=
  ∀ next found, outcome = .ok next → duty.Through next →
    trail.calls.head? = some (duty.reading found) →
      trail.cluster.observed τ key = some found.generation

end Duty

/-! ### What is remembered -/

/-- What a pass remembers of the resource that it found: all but the status as it was, and the
generation that is observed as it is stored. -/
structure Minds (key : ObjectKey) (found r : Resource σ τ) (cluster : Cluster) : Prop where
  metadata : r.metadata = found.metadata
  spec : r.spec = found.spec
  observed : cluster.observed τ key = r.observed

namespace Minds

variable {key : ObjectKey} {found r : Resource σ τ} {cluster cluster' : Cluster}

theorem key_eq (minds : Minds key found r cluster) : r.key = found.key := by
  rw [Resource.key, minds.metadata, Resource.key]

theorem generation_eq (minds : Minds key found r cluster) : r.generation = found.generation := by
  rw [Resource.generation, minds.metadata, Resource.generation]

/-- Nothing that leaves alone what is observed makes a pass mistaken. -/
theorem congr (minds : Minds key found r cluster)
    (h : cluster'.observed τ key = cluster.observed τ key) : Minds key found r cluster' :=
  ⟨minds.metadata, minds.spec, h.trans minds.observed⟩

theorem put (minds : Minds key found r cluster) {status : τ}
    (h : cluster'.observed τ key = Observing.observed status) :
    Minds key found { r with status := some status } cluster' :=
  ⟨minds.metadata, minds.spec, h⟩

end Minds

namespace Cluster

variable {scope : Option String} {key : ObjectKey} {cluster cluster' : Cluster} {call : Call δ κ}
  {reply : call.Reply}

/-- A call that spares a kind of resource leaves alone what is observed of each. -/
theorem Answers.observed_eq (h : cluster.Answers scope call reply cluster') (spares : call.Spares τ) :
    cluster'.observed τ key = cluster.observed τ key := by
  obtain ⟨refusal, outside, hanswer⟩ := h
  have hkept := spares.keeps scope refusal outside cluster key
  rw [hanswer] at hkept
  rw [observed, hkept, observed]

/-- A status patch that is made of what a pass remembers is refused, or it leaves the generation that
it was to leave. -/
theorem Answers.observed_patch {found r : Resource σ τ} {status : τ} {reply : Except Failure Unit}
    (minds : Minds key found r cluster)
    (h : cluster.Answers scope
      (.patchStatus (Status.kind τ) key (statusPatch r.status status) : Call δ κ) reply cluster') :
    cluster'.observed τ key =
      match reply with
      | .ok () => Observing.observed status
      | .error _ => cluster.observed τ key := by
  obtain ⟨refusal, outside, hanswer⟩ := h
  obtain ⟨failure, rfl, rfl⟩ | ⟨rfl, hpatch⟩ := Cluster.patching_cases hanswer
  · rfl
  · have hpatched := Cluster.observed_patch hpatch
    rw [minds.observed, Resource.observed, Resource.statusOrInitial] at hpatched
    rw [hpatched]
    split
    · assumption
    · rfl

end Cluster

/-! ### What was done -/

namespace Answered

def Clean (answered : Answered δ κ) : Prop :=
  answered.succeeded = true ∧ ∀ channel, answered.call ≠ .greet channel

def Aside : Answered δ κ → Prop
  | ⟨.now, _⟩ | ⟨.record _, _⟩ | ⟨.patchStatus _ _ _, .ok ()⟩ => True
  | _ => False

theorem Aside.clean {answered : Answered δ κ} (aside : answered.Aside) : answered.Clean := by
  obtain ⟨call, reply⟩ := answered
  cases call with
  | now | record => exact ⟨rfl, by simp⟩
  | patchStatus kind key patch =>
    cases reply with
    | ok value => exact ⟨rfl, by simp⟩
    | error failure => cases aside
  | _ => cases aside

end Answered

def Stable (fact : List (Answered δ κ) → Prop) : Prop :=
  ∀ calls answered, answered.Aside → fact calls → fact (calls ++ [answered])

/-- Nothing is known once something has gone wrong. -/
theorem stable_true : Stable fun _ : List (Answered δ κ) => True := fun _ _ _ h => h

/-- A pass has begun with a reading and has done some things since; nothing went wrong, and nobody was
greeted. -/
structure Progress (reading : Answered δ κ) (done calls : List (Answered δ κ)) : Prop where
  began : calls.head? = some reading
  done : ∀ answered ∈ done, answered ∈ calls
  clean : ∀ answered ∈ calls, answered.Clean

def ProgressIf (reading : Answered δ κ) (done : List (Answered δ κ)) (last : Answered δ κ)
    (calls : List (Answered δ κ)) : Prop :=
  last.Clean → Progress reading (done ++ [last]) calls

namespace Progress

variable {reading answered : Answered δ κ} {done calls : List (Answered δ κ)}

theorem append (h : Progress reading done calls) (clean : answered.Clean) :
    Progress reading (done ++ [answered]) (calls ++ [answered]) := by
  refine ⟨?_, ?_, ?_⟩
  · rw [List.head?_append, h.began]
    rfl
  · intro other hother
    rcases List.mem_append.1 hother with hother | hother
    · exact List.mem_append_left _ (h.done other hother)
    · exact List.mem_append_right _ hother
  · intro other hother
    rcases List.mem_append.1 hother with hother | hother
    · exact h.clean other hother
    · rw [List.mem_singleton.1 hother]
      exact clean

theorem mono (h : Progress reading done calls) {less : List (Answered δ κ)}
    (fewer : ∀ answered ∈ less, answered ∈ done) : Progress reading less calls :=
  ⟨h.began, fun answered hanswered => h.done answered (fewer answered hanswered), h.clean⟩

theorem stable (reading : Answered δ κ) (done : List (Answered δ κ)) :
    Stable (Progress reading done) := by
  intro calls answered aside h
  apply (h.append aside.clean).mono
  intro other hother
  exact List.mem_append_left _ hother

end Progress

theorem ProgressIf.stable (reading : Answered δ κ) (done : List (Answered δ κ))
    (last : Answered δ κ) : Stable (ProgressIf reading done last) := by
  intro calls answered aside h clean
  exact Progress.stable reading _ calls answered aside (h clean)

/-! ### The parts of a pass -/

namespace Duty

variable {duty : Duty δ κ σ τ} {scope : Option String} {key : ObjectKey} {found r : Resource σ τ}
  {trail trail' : Trail δ κ} {fact : List (Answered δ κ) → Prop}

theorem permits_of_spares {call : Call δ κ} (spares : call.Spares τ) :
    duty.Permits scope key trail call :=
  fun _ _ answers => .inl (answers.observed_eq spares)

theorem minds_of_spares {call : Call δ κ} {reply : call.Reply} (spares : call.Spares τ)
    (minds : Minds key found r trail.cluster)
    (proceeds : trail.Proceeds (·.observed τ key) scope call reply trail') :
    Minds key found r trail'.cluster := by
  obtain ⟨cluster, answers, hview, -⟩ := proceeds
  exact minds.congr (hview.trans (answers.observed_eq spares))

theorem progress_of_spares {call : Call δ κ} {reply : call.Reply} {reading : Answered δ κ}
    {done : List (Answered δ κ)} (spares : call.Spares τ) (minds : Minds key found r trail.cluster)
    (progress : Progress reading done trail.calls)
    (proceeds : trail.Proceeds (·.observed τ key) scope call reply trail') :
    Minds key found r trail'.cluster ∧ ProgressIf reading done ⟨call, reply⟩ trail'.calls := by
  refine ⟨minds_of_spares spares minds proceeds, fun clean => ?_⟩
  obtain ⟨-, -, -, hcalls⟩ := proceeds
  rw [hcalls]
  exact progress.append clean

/-- A status is written that leaves the generation alone, or all is done. -/
theorem permits_patch (own : found.key = key) (minds : Minds key found r trail.cluster) {status : τ}
    (h : Observing.observed status = r.observed ∨
      duty.Done found trail.calls ∧ Observing.observed status = some found.generation) :
    duty.Permits scope key trail
      (.patchStatus (Status.kind τ) r.key (statusPatch r.status status)) := by
  intro reply cluster answers
  rw [minds.key_eq, own] at answers
  have hobserved := answers.observed_patch minds
  cases reply with
  | error failure => exact .inl hobserved
  | ok value =>
    rcases h with h | ⟨done, h⟩
    · exact .inl (hobserved.trans (h.trans minds.observed.symm))
    · exact .inr ⟨found, done, hobserved.trans h⟩

theorem minds_of_patch (own : found.key = key) (minds : Minds key found r trail.cluster) {status : τ}
    (proceeds : trail.Proceeds (·.observed τ key) scope
      (.patchStatus (Status.kind τ) r.key (statusPatch r.status status)) (.ok ()) trail') :
    Minds key found { r with status := some status } trail'.cluster := by
  obtain ⟨cluster, answers, hview, -⟩ := proceeds
  rw [minds.key_eq, own] at answers
  exact minds.put (hview.trans (answers.observed_patch minds))

theorem fact_of_aside (stable : Stable fact) {call : Call δ κ} {reply : call.Reply}
    (aside : (⟨call, reply⟩ : Answered δ κ).Aside) (h : fact trail.calls)
    (proceeds : trail.Proceeds (·.observed τ key) scope call reply trail') : fact trail'.calls := by
  obtain ⟨-, -, -, hcalls⟩ := proceeds
  rw [hcalls]
  exact stable _ _ aside h

theorem tolerant (duty : Duty δ κ σ τ) (scope : Option String) (own : found.key = key)
    (stable : Stable fact) : Tolerant (duty.rules scope key) fun r trail =>
      Minds key found r trail.cluster ∧ fact trail.calls where
  clock r trail h := by
    obtain ⟨minds, hfact⟩ := h
    have spares : (Call.now : Call δ κ).Spares τ := Call.spares trivial
    refine ⟨permits_of_spares spares, fun now trail' proceeds => ?_⟩
    refine ⟨minds_of_spares spares minds proceeds, fact_of_aside stable ?_ hfact proceeds⟩
    trivial
  sends r trail h conditions := by
    obtain ⟨minds, hfact⟩ := h
    refine ⟨permits_patch own minds (.inl ?_), fun trail' proceeds => ?_⟩
    · exact Observing.observed_withConditions _ _
    · refine ⟨minds_of_patch own minds proceeds, fact_of_aside stable ?_ hfact proceeds⟩
      trivial
  refused _ _ _ _ _ _ _ := trivial
  keeps r trail h conditions := by
    refine ⟨h.1.put ?_, h.2⟩
    rw [Observing.observed_withConditions]
    exact h.1.observed

/-- The status is changed, but for the generation that is observed or once all is done. -/
theorem keeps_write (own : found.key = key) (minds : Minds key found r trail.cluster)
    (stable : Stable fact) (hfact : fact trail.calls) {mutate : Pass.Mutation τ}
    (h : Observing.observed (mutate r.statusOrInitial).1 = r.observed ∨
      duty.Done found trail.calls ∧
        Observing.observed (mutate r.statusOrInitial).1 = some found.generation)
    (unsent : (mutate r.statusOrInitial).2 = false →
      Observing.observed (mutate r.statusOrInitial).1 = r.observed) :
    (Pass.patchStatus mutate : Pass δ κ (Resource σ τ) Bool).Keeps (duty.rules scope key)
      (fun _ r' trail' => (Minds key found r' trail'.cluster ∧ fact trail'.calls) ∧
        r'.observed = Observing.observed (mutate r.statusOrInitial).1) r trail := by
  refine Pass.keeps_patchStatus (fun _ => ⟨permits_patch own minds h, fun trail' proceeds => ?_⟩)
    (fun _ _ _ _ => trivial) fun hunsent => ?_
  · refine ⟨⟨minds_of_patch own minds proceeds, fact_of_aside stable ?_ hfact proceeds⟩, rfl⟩
    trivial
  · exact ⟨⟨minds.put (minds.observed.trans (unsent hunsent).symm), hfact⟩, rfl⟩

/-- A part of a pass makes a call, whatever has gone wrong. -/
theorem keeps_sparing_bind {call : Call δ κ} {gets : α → Resource σ τ → Trail δ κ → Prop}
    {f : call.Reply → Pass δ κ (Resource σ τ) α} (spares : call.Spares τ)
    (minds : Minds key found r trail.cluster)
    (next : ∀ reply trail', Minds key found r trail'.cluster →
      (f reply).Keeps (duty.rules scope key) gets r trail') :
    (Pass.ask call >>= f).Keeps (duty.rules scope key) gets r trail :=
  Pass.keeps_ask_bind (permits_of_spares spares) fun reply trail' proceeds =>
    next reply trail' (minds_of_spares spares minds proceeds)

/-- A part of a pass makes a call while all goes well. -/
theorem keeps_errand_bind {call : Call δ κ} {done : List (Answered δ κ)} {reading : Answered δ κ}
    {gets : α → Resource σ τ → Trail δ κ → Prop}
    {f : call.Reply → Pass δ κ (Resource σ τ) α} (spares : call.Spares τ)
    (minds : Minds key found r trail.cluster) (progress : Progress reading done trail.calls)
    (next : ∀ reply trail', Minds key found r trail'.cluster →
      ProgressIf reading done ⟨call, reply⟩ trail'.calls →
        (f reply).Keeps (duty.rules scope key) gets r trail') :
    (Pass.ask call >>= f).Keeps (duty.rules scope key) gets r trail := by
  refine Pass.keeps_ask_bind (permits_of_spares spares) fun reply trail' proceeds => ?_
  obtain ⟨minds', progress'⟩ := progress_of_spares spares minds progress proceeds
  exact next reply trail' minds' progress'

section

variable [Dependent σ] {reading : Answered δ κ} {done : List (Answered δ κ)}

theorem keeps_fetchSecret (own : found.key = key) (minds : Minds key found r trail.cluster)
    (progress : Progress reading done trail.calls) :
    (Pass.fetchSecret : Pass δ κ (Resource σ τ) Secret).Keeps (duty.rules scope key)
      (fun secret r' trail' => Minds key found r' trail'.cluster ∧
        Progress reading (done ++ [⟨.getSecret ⟨found.metadata.space, Dependent.secretName found.spec⟩,
          .ok secret⟩]) trail'.calls) r trail := by
  let call : Call δ κ := .getSecret ⟨found.metadata.space, Dependent.secretName found.spec⟩
  have spares : call.Spares τ := Call.spares trivial
  refine Pass.Keeps.mono (Pass.keeps_fetchSecret
    (fun reply r trail => Minds key found r trail.cluster ∧
      ProgressIf reading done ⟨call, reply⟩ trail.calls)
    (fun reply => duty.tolerant scope own (ProgressIf.stable reading done ⟨call, reply⟩))
    (fun _ _ _ _ => trivial) ?_) fun secret r' trail' h => ⟨h.1, h.2 ⟨rfl, by simp [call]⟩⟩
  rw [minds.metadata, minds.spec]
  exact ⟨permits_of_spares spares, fun reply trail' => progress_of_spares spares minds progress⟩

theorem keeps_fetchConfigMap (own : found.key = key) (minds : Minds key found r trail.cluster)
    (progress : Progress reading done trail.calls) :
    (Pass.fetchConfigMap : Pass δ κ (Resource σ τ) ConfigMap).Keeps (duty.rules scope key)
      (fun configMap r' trail' => Minds key found r' trail'.cluster ∧
        Progress reading (done ++
          [⟨.getConfigMap ⟨found.metadata.space, Dependent.configMapName found.spec⟩,
            .ok configMap⟩]) trail'.calls) r trail := by
  let call : Call δ κ := .getConfigMap ⟨found.metadata.space, Dependent.configMapName found.spec⟩
  have spares : call.Spares τ := Call.spares trivial
  refine Pass.Keeps.mono (Pass.keeps_fetchConfigMap
    (fun reply r trail => Minds key found r trail.cluster ∧
      ProgressIf reading done ⟨call, reply⟩ trail.calls)
    (fun reply => duty.tolerant scope own (ProgressIf.stable reading done ⟨call, reply⟩))
    (fun _ _ _ _ => trivial) ?_) fun configMap r' trail' h => ⟨h.1, h.2 ⟨rfl, by simp [call]⟩⟩
  rw [minds.metadata, minds.spec]
  exact ⟨permits_of_spares spares, fun reply trail' => progress_of_spares spares minds progress⟩

end

/-! ### The beginning and the end -/

theorem begins {cluster : Cluster} {call : Call δ κ} {reply : call.Reply} (spares : call.Spares τ)
    (stored : cluster.stored? key = some found) (clean : (⟨call, reply⟩ : Answered δ κ).Clean)
    (proceeds : Trail.Proceeds (·.observed τ key) scope ⟨cluster, []⟩ call reply trail) :
    Minds key found found trail.cluster ∧ Progress ⟨call, reply⟩ [] trail.calls := by
  have minds : Minds key found found cluster := by
    refine ⟨rfl, rfl, ?_⟩
    rw [Cluster.observed, stored]
    rfl
  obtain ⟨-, -, -, hcalls⟩ := id proceeds
  refine ⟨minds_of_spares spares minds proceeds, ?_⟩
  rw [hcalls]
  refine ⟨rfl, by simp, ?_⟩
  intro answered hanswered
  obtain rfl := List.mem_singleton.1 hanswered
  exact clean

/-- A pass that has read nothing answers for nothing. -/
theorem ends_of_unread {cluster : Cluster} {call : Call δ κ} {reply : call.Reply}
    (unread : ∀ found, (⟨call, reply⟩ : Answered δ κ) ≠ duty.reading found)
    (proceeds : Trail.Proceeds (·.observed τ key) scope ⟨cluster, []⟩ call reply trail)
    (outcome : Outcome) : duty.Ends key outcome trail := by
  obtain ⟨-, -, -, hcalls⟩ := proceeds
  intro next found _ _ hhead
  rw [hcalls] at hhead
  exact absurd (Option.some.inj hhead) (unread found)

/-- Once all is done the generation is written, and the pass is through. -/
theorem keeps_observe {done : List (Answered δ κ)} (own : found.key = key)
    (minds : Minds key found r trail.cluster)
    (progress : Progress (duty.reading found) done trail.calls)
    (complete : duty.Done found trail.calls) {mutate : Pass.Mutation τ}
    (writes : ∀ status, Observing.observed (mutate status).1 = some r.generation)
    (unsent : ∀ status, (mutate status).2 = false →
      Observing.observed status = some r.generation) :
    (Pass.patchStatus mutate : Pass δ κ (Resource σ τ) Bool).Keeps (duty.rules scope key)
      (fun _ _ trail' => ∀ outcome, duty.Ends key outcome trail') r trail := by
  have written := (writes r.statusOrInitial).trans (congrArg some minds.generation_eq)
  refine Pass.Keeps.mono (keeps_write own minds (Progress.stable _ done) progress
    (.inr ⟨complete, written⟩) fun h => (writes _).trans (unsent _ h).symm) ?_
  rintro _ r' trail' ⟨⟨minds', progress'⟩, observed⟩ outcome next other _ _ hother
  obtain rfl : found = other :=
    duty.injective (Option.some.inj (progress'.began.symm.trans hother))
  exact minds'.observed.trans (observed.trans written)

end Duty

end DynamicDns
