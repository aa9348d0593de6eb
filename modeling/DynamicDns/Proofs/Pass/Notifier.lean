import DynamicDns.Proofs.Pass.Stage

/-!
# The notifier pass keeps to its stages

One lemma for each part of the pass: from which stage to which stage it leads, and what the pass
remembers there. The announcements are made by induction over the listing, each from the stage at
which it is the next one due to the stage at which it no longer is.
-/

namespace DynamicDns.Pass

open Stage (rules)

variable {δ κ : Type} {key : ObjectKey} {notifier r : Notifier}

theorem keeps_flip (stage : Stage) {old new : Bool} {mutate : Mutation NotifierStatus}
    (hwrites : stage.writes? = some (notifier, old, new)) (h : Remembers notifier old r)
    (flips : ∀ status : NotifierStatus, status.isReady = old →
      (mutate status).1.isReady = new ∧ (mutate status).2 = true) :
    (patchStatus mutate : Pass δ κ Notifier Bool).Keeps (rules δ κ key)
      (fun _ r' stage' => Remembers notifier new r' ∧ stage' = stage.afterWriting true) r stage := by
  obtain ⟨hnew, hchanged⟩ := flips r.statusOrInitial h.isReady
  refine keeps_patchStatus (fun _ => ⟨?_, ?_⟩) (fun _ _ _ => Stage.fails_of_refused)
    fun hunchanged => ?_
  · exact ⟨notifier, old, new, hwrites, rfl, h.key, r.status, _, rfl, h.isReady, hnew⟩
  · exact fun after answer => ⟨⟨h.metadata, hnew⟩, answer⟩
  · rw [hchanged] at hunchanged
    cases hunchanged

/-! ### Greeting -/

theorem keeps_greet {channel : κ} (h : Remembers notifier false r)
    (hready : notifier.statusOrInitial.isReady = false) :
    (greet channel : Pass δ κ Notifier Unit).Keeps (rules δ κ key)
      (fun _ _ stage => stage = .promoted notifier) r (.preparing notifier) := by
  refine keeps_ask_bind ⟨notifier, rfl, hready⟩ ?_
  rintro reply _ rfl
  refine keeps_ask_bind trivial ?_
  rintro _ _ rfl
  cases reply with
  | ok value =>
    refine keeps_stamped_bind trivial ?_
    rintro now _ rfl change
    refine Keeps.bind (keeps_flip (.greeted notifier true) rfl h fun status hstatus => ⟨rfl, ?_⟩)
      fun _ _ _ got => keeps_pure got.2
    change ((change (Status.conditions status)).2 || decide (status.isReady ≠ true)) = true
    rw [hstatus]
    exact Bool.or_true _
  | error e =>
    refine Keeps.bind ((tolerant (.greeted notifier false) rfl rfl).recordCondition _ _ ⟨h, rfl⟩)
      fun _ _ _ h => ?_
    obtain ⟨-, rfl⟩ := h
    exact keeps_proceed_error rfl

/-! ### Announcing -/

theorem keeps_announce {channel : κ} {listed : List Provider} {provider : Provider} {ip : String}
    {due : List (Provider × String)} (h : Remembers notifier true r) :
    (announce channel (Marker.ofNotifier notifier) provider ip : Pass δ κ Notifier Unit).Keeps
      (rules δ κ key)
      (fun _ r' stage => Remembers notifier true r' ∧ stage = .announcing notifier listed due) r
      (.announcing notifier listed ((provider, ip) :: due)) := by
  refine keeps_ask_bind ⟨provider, ip, rfl, rfl⟩ ?_
  rintro reply _ rfl
  refine keeps_ask_bind trivial ?_
  rintro _ _ rfl
  cases reply with
  | ok value =>
    refine Keeps.bind
      ((tolerant (.owing notifier listed provider ip due) rfl rfl).recordCondition _ _ ⟨h, rfl⟩) ?_
    rintro _ r' _ ⟨h', rfl⟩
    refine keeps_ask_bind ⟨notifier, provider, ip, rfl, rfl, rfl⟩ ?_
    rintro reply _ rfl
    cases reply with
    | ok value => exact keeps_pure ⟨h', rfl⟩
    | error failure => exact keeps_throw _ rfl
  | error e =>
    refine keeps_stamped_bind trivial ?_
    rintro now _ rfl change
    refine Keeps.bind (keeps_flip (.refused notifier) rfl h fun status hstatus => ⟨rfl, ?_⟩)
      fun _ _ _ h => ?_
    rotate_left
    · obtain ⟨-, rfl⟩ := h
      exact keeps_proceed_error rfl
    change (decide (status.isReady ≠ false) || (change (Status.conditions status)).2) = true
    rw [hstatus]
    rfl

theorem keeps_announceAll {channel : κ} {listed : List Provider} (providers : List Provider)
    (h : Remembers notifier true r) :
    (announceAll channel (Marker.ofNotifier notifier) providers : Pass δ κ Notifier Unit).Keeps
      (rules δ κ key)
      (fun _ r' stage => Remembers notifier true r' ∧ stage = .announcing notifier listed []) r
      (.announcing notifier listed (providers.filterMap fun provider =>
        (pending? (Marker.ofNotifier notifier) provider).map fun ip => (provider, ip))) := by
  induction providers generalizing r with
  | nil => exact keeps_pure ⟨h, rfl⟩
  | cons provider rest ih =>
    rw [announceAll, List.filterMap_cons]
    cases pending? (Marker.ofNotifier notifier) provider with
    | none => exact ih h
    | some ip =>
      refine Keeps.bind (keeps_announce h) ?_
      rintro _ r' _ ⟨h', rfl⟩
      exact ih h'

/-! ### The pass -/

theorem keeps_putGeneration {listed : List Provider} {generation : Option Int64}
    (h : Remembers notifier true r) :
    (patchStatus (putNotifierGeneration generation) : Pass δ κ Notifier Bool).Keeps (rules δ κ key)
      (fun _ _ stage => stage = .announcing notifier listed []) r
      (.announcing notifier listed []) := by
  refine keeps_patchStatus (fun _ => ⟨?_, fun after answer => answer⟩)
    (fun _ _ _ => Stage.fails_of_refused) fun _ => rfl
  exact ⟨notifier, true, true, rfl, rfl, h.key, r.status, _, rfl, h.isReady, h.isReady⟩

theorem keeps_ensureDeclared {S : Type} {rules : Program.Rules (@Call.Reply δ κ) S}
    {holds : Notifier → S → Prop} {s : S} (tolerant : Tolerant rules holds) (h : holds r s) :
    (ensureDeclared : Pass δ κ Notifier Unit).Keeps rules (fun _ => holds) r s := by
  obtain ⟨allowed, answered⟩ := tolerant.clock r s h
  refine keeps_ask_bind allowed fun now after answer => ?_
  refine Keeps.bind (tolerant.patchConditions _ (answered now after answer)) ?_
  exact fun _ _ _ h' => keeps_pure h'

theorem keeps_overNotifier (notifier : Notifier) :
    (overNotifier key : Pass δ κ Notifier Next).Keeps (rules δ κ key)
      (fun outcome _ stage => Stage.Ends (.ok outcome) stage) notifier (.preparing notifier) := by
  let holds (r : Notifier) (stage : Stage) : Prop :=
    Remembers notifier notifier.statusOrInitial.isReady r ∧ stage = .preparing notifier
  have steady : Tolerant (rules δ κ key) holds := tolerant (.preparing notifier) rfl rfl
  have fails (r : Notifier) (stage : Stage) (h : holds r stage) : (rules δ κ key).fails stage := by
    rw [h.2]
    rfl
  refine Keeps.bind (keeps_ensureDeclared steady ⟨⟨rfl, rfl⟩, rfl⟩) fun _ r s h => ?_
  refine Keeps.bind (keeps_fetchSecret (fun _ => holds) (fun _ => steady) (fun _ => fails)
    ⟨trivial, fun _ _ answer => ⟨h.1, answer.trans h.2⟩⟩) fun secret r s h => ?_
  refine Keeps.bind (keeps_fetchConfigMap (fun _ => holds) (fun _ => steady) (fun _ => fails)
    ⟨trivial, fun _ _ answer => ⟨h.1, answer.trans h.2⟩⟩) fun configMap r s h => ?_
  refine keeps_get_bind ?_
  obtain ⟨h, rfl⟩ := h
  refine keeps_ask_bind trivial ?_
  rintro created _ rfl
  refine Keeps.bind (steady.recordCreation fails ⟨h, rfl⟩) ?_
  rintro channel r s ⟨-, h, rfl⟩
  refine keeps_get_bind ?_
  cases hready : notifier.statusOrInitial.isReady with
  | false =>
    rw [hready] at h
    rw [h.isReady]
    refine Keeps.bind (keeps_greet h hready) ?_
    rintro _ r _ rfl
    exact keeps_pure ⟨rfl, notifier, rfl⟩
  | true =>
    rw [hready] at h
    rw [h.isReady]
    refine keeps_get_bind ?_
    rw [h.marker]
    refine keeps_ask_bind ⟨notifier, rfl, hready⟩ ?_
    rintro reply _ rfl
    cases reply with
    | error failure => exact keeps_throw_bind failure rfl
    | ok listed =>
      refine Keeps.bind (keeps_announceAll _ h) ?_
      rintro _ r _ ⟨h, rfl⟩
      refine keeps_get_bind ?_
      refine Keeps.bind (keeps_putGeneration h) ?_
      rintro _ r _ rfl
      exact keeps_pure (.inr ⟨notifier, listed, rfl⟩)

/-- However it is answered, a notifier pass keeps to its stages. -/
theorem notifier_obeys (key : ObjectKey) :
    (Pass.notifier key : Calling δ κ Outcome).Obeys (rules δ κ key) Stage.Ends .opening := by
  refine ⟨⟨rfl, rfl⟩, ?_⟩
  rintro reply _ rfl
  cases reply with
  | error failure => rfl
  | ok found =>
    cases found with
    | none => exact .inl rfl
    | some notifier =>
      exact (keeps_overNotifier notifier).obeys (fun _ _ _ got => got) fun _ _ h => h

end DynamicDns.Pass
