import DynamicDns.Proofs.Pass.Held
import DynamicDns.Proofs.Pass.Settling

/-!
# A notifier pass at an impasse

A notifier needs a secret, a config map, a channel that is built from the two, and a greeting. As long
as one of them keeps failing, each pass over it ends at the same obstacle, and the notifier reports
that obstacle (`Impasse`). What a pass reports is what the next one would report again, so nothing is
sent, with one exception: a channel that was built makes the condition of the client hold, and a
greeting that fails makes it fail, so a pass that greets in vain writes twice whenever it is repeated
(`obstacle_repeats`).
-/

namespace DynamicDns

variable {δ κ : Type}

/-- Whether a call asks for something that a notifier needs before it is ready. -/
def Call.collaborates : Call δ κ → Bool
  | .getSecret _ | .getConfigMap _ | .createChannel _ _ _ | .greet _ => true
  | _ => false

theorem Call.consults_of_collaborates {call : Call δ κ} (collaborates : call.collaborates = true) :
    call.consults = true := by
  cases call with
  | getSecret | getConfigMap | createChannel | greet => rfl
  | _ => cases collaborates

def Answered.Obstructs (answered : Answered δ κ) : Prop :=
  answered.call.collaborates = true ∧ answered.succeeded = false

namespace Trail

/-- A call is answered by a store that refuses nothing, and what a notifier needs is to be had or not
as ever. -/
def Recurs (scope : Option String) (steady : (call : Call δ κ) → call.Reply) (trail : Trail δ κ)
    (call : Call δ κ) (reply : call.Reply) (trail' : Trail δ κ) : Prop :=
  ∃ outside : (call : Call δ κ) → call.Reply,
    (∀ call, call.collaborates = true → outside call = steady call) ∧
      trail.answer scope none outside call = (reply, trail')

end Trail

namespace Pass

/-- A notifier that reports the obstacle at which each pass over it ends, after greeting or without. -/
inductive Impasse (steady : (call : Call δ κ) → call.Reply) (r : Notifier) : Bool → Prop where
  | secret {e : LookupError} (declared : r.Declared)
      (missing : steady (.getSecret r.secretKey) = .error e)
      (told : r.Reports Condition.typeSecret (fails Wording.secretFound e.text)) :
      Impasse steady r false
  | configMap {secret : Secret} {e : LookupError} (declared : r.Declared)
      (found : steady (.getSecret r.secretKey) = .ok secret) (unlocked : r.Unlocked)
      (missing : steady (.getConfigMap r.configMapKey) = .error e)
      (told : r.Reports Condition.typeConfigMap (fails Wording.configMapFound e.text)) :
      Impasse steady r false
  | channel {secret : Secret} {configMap : ConfigMap} {e : ChannelError} (declared : r.Declared)
      (found : steady (.getSecret r.secretKey) = .ok secret) (unlocked : r.Unlocked)
      (found' : steady (.getConfigMap r.configMapKey) = .ok configMap) (equipped : r.Equipped)
      (refused : steady (.createChannel r.spec.name secret configMap) = .error e)
      (told : r.Reports Condition.typeClient
        (fails Wording.clientCreated (Wording.creationFailed e.text))) :
      Impasse steady r false
  | greeting {secret : Secret} {configMap : ConfigMap} {channel : κ} {e : ChannelError}
      (declared : r.Declared)
      (found : steady (.getSecret r.secretKey) = .ok secret) (unlocked : r.Unlocked)
      (found' : steady (.getConfigMap r.configMapKey) = .ok configMap) (equipped : r.Equipped)
      (built : steady (.createChannel r.spec.name secret configMap) = .ok channel)
      (unready : r.statusOrInitial.isReady = false)
      (refused : steady (.greet channel) = .error e)
      (told : r.Reports Condition.typeClient
        (fails Wording.clientCommunication (Wording.greetingsFailed e.text))) :
      Impasse steady r true

variable {scope : Option String} {steady : (call : Call δ κ) → call.Reply} {key : ObjectKey}
  {notifier r : Notifier} {trail trail' : Trail δ κ} {call : Call δ κ} {reply : call.Reply}

theorem Impasse.congr {r' : Notifier} {greets : Bool} (impasse : Impasse steady r greets)
    (metadata : r'.metadata = r.metadata) (spec : r'.spec = r.spec)
    (status : r'.statusOrInitial = r.statusOrInitial) : Impasse steady r' greets := by
  have generation : r'.generation = r.generation := by
    rw [Resource.generation, metadata, Resource.generation]
  have hsecret : r'.secretKey = r.secretKey := by
    rw [Resource.secretKey, metadata, spec, Resource.secretKey]
  have hconfigMap : r'.configMapKey = r.configMapKey := by
    rw [Resource.configMapKey, metadata, spec, Resource.configMapKey]
  cases impasse with
  | secret declared missing told =>
    exact .secret (declared.congr status) (hsecret ▸ missing) (told.congr generation status)
  | configMap declared found unlocked missing told =>
    exact .configMap (declared.congr status) (hsecret ▸ found)
      (unlocked.congr generation spec status) (hconfigMap ▸ missing) (told.congr generation status)
  | channel declared found unlocked found' equipped refused told =>
    exact .channel (declared.congr status) (hsecret ▸ found) (unlocked.congr generation spec status)
      (hconfigMap ▸ found') (equipped.congr generation spec status) (spec ▸ refused)
      (told.congr generation status)
  | greeting declared found unlocked found' equipped built unready refused told =>
    exact .greeting (declared.congr status) (hsecret ▸ found) (unlocked.congr generation spec status)
      (hconfigMap ▸ found') (equipped.congr generation spec status) (spec ▸ built)
      (status ▸ unready) refused (told.congr generation status)

namespace Impasse

open Trail (Held Met Unrefused)

/-! ### What a pass comes to -/

structure Clear (steady : (call : Call δ κ) → call.Reply) (notifier : Notifier)
    (trail : Trail δ κ) : Prop where
  unobstructed : ∀ answered ∈ trail.calls, ¬answered.Obstructs
  passable : ∀ greets, ¬Impasse steady notifier greets

/-- A pass has ended at an obstacle that the notifier now reports. If it did so before, it was the
same, and nothing was sent unless a greeting was. -/
def Blocked (steady : (call : Call δ κ) → call.Reply) (key : ObjectKey) (notifier : Notifier)
    (trail : Trail δ κ) : Prop :=
  ∃ (r : Notifier) (greets : Bool), trail.cluster.Holds key r ∧ r.key = key ∧
    Impasse steady r greets ∧ (greets = true ↔ greetings trail.calls ≠ []) ∧
      ∀ greets', Impasse steady notifier greets' →
        greets' = greets ∧ trail.patches = if greets then 2 else 0

def rules (scope : Option String) (steady : (call : Call δ κ) → call.Reply) (key : ObjectKey)
    (notifier : Notifier) : Program.Rules (@Call.Reply δ κ) (Trail δ κ) where
  allows _ _ := True
  answers := Trail.Recurs scope steady
  fails trail := Clear steady notifier trail ∨ Blocked steady key notifier trail

variable {asked : List (Answered δ κ)} {sent : Nat}

theorem greetings_of_held (held : Held key asked sent r trail) :
    greetings trail.calls = greetings asked := by
  rw [← held.asked, greetings, greetings, List.filterMap_filter]
  refine List.filterMap_congr fun answered _ => ?_
  obtain ⟨call, reply⟩ := answered
  cases call <;> rfl

theorem unobstructed_of_held (held : Held key asked sent r trail)
    (succeeded : ∀ answered ∈ asked, answered.succeeded = true) :
    ∀ answered ∈ trail.calls, ¬answered.Obstructs := by
  intro answered hanswered ⟨collaborates, failed⟩
  have hmem : answered ∈ trail.calls.filter (·.call.consults) :=
    List.mem_filter.2 ⟨hanswered, Call.consults_of_collaborates collaborates⟩
  rw [held.asked] at hmem
  rw [succeeded answered hmem] at failed
  cases failed

theorem asks (held : Held key asked sent r trail)
    (recurs : trail.Recurs scope steady call reply trail')
    (collaborates : call.collaborates = true) :
    reply = steady call ∧ Held key (asked ++ [⟨call, reply⟩]) sent r trail' := by
  obtain ⟨outside, agrees, hanswer⟩ := recurs
  rw [← agrees call collaborates]
  exact held.asks hanswer (Call.consults_of_collaborates collaborates)

theorem unrefused : Unrefused scope (rules scope steady key notifier) where
  allowed _ _ := trivial
  answered _ _ _ _ := fun ⟨outside, _, hanswer⟩ => ⟨outside, hanswer⟩

theorem meets (held : Held key asked sent r trail) (collaborates : call.collaborates = true) :
    ∀ reply trail', trail.Recurs scope steady call reply trail' →
      Met steady key asked call reply sent r trail' := by
  intro reply trail' recurs
  obtain ⟨hreply, held'⟩ := asks held recurs collaborates
  exact ⟨hreply.symm, held'⟩

variable {wanted : Notifier → Prop}

/-- A pass that has ended at an obstacle without greeting. -/
theorem blocked (held : Held key asked sent r trail) (silent : greetings asked = [])
    (impasse : Impasse steady r false) (settles : notifier.Settles wanted sent r)
    (before : ∀ greets, Impasse steady notifier greets → greets = false ∧ wanted notifier) :
    (rules scope steady key notifier).fails trail := by
  refine .inr ⟨r, false, held.holds, held.own, impasse, ?_, fun greets' impasse' => ?_⟩
  · rw [greetings_of_held held, silent]
    exact iff_of_false Bool.false_ne_true fun h => h rfl
  · obtain ⟨hgreets, hwanted⟩ := before greets' impasse'
    refine ⟨hgreets, ?_⟩
    rw [held.sent, (settles.idle hwanted).1]
    rfl

/-! ### Once nothing is in the way -/

namespace Clear

theorem recurs (clear : Clear steady notifier trail)
    (recurs : trail.Recurs scope steady call reply trail') (aside : call.collaborates = false) :
    Clear steady notifier trail' := by
  obtain ⟨outside, -, hanswer⟩ := recurs
  obtain ⟨rfl, rfl⟩ := Prod.mk.inj hanswer
  refine ⟨fun answered hanswered obstructs => ?_, clear.passable⟩
  rcases List.mem_append.1 hanswered with h | h
  · exact clear.unobstructed answered h obstructs
  · obtain ⟨collaborates, -⟩ := obstructs
    rw [List.mem_singleton.1 h, aside] at collaborates
    cases collaborates

theorem keeps_patchStatus {mutate : Mutation NotifierStatus} (clear : Clear steady notifier trail) :
    (patchStatus mutate : Pass δ κ Notifier Bool).Keeps (rules scope steady key notifier)
      (fun _ _ => Clear steady notifier) r trail :=
  Pass.keeps_patchStatus (fun _ => ⟨trivial, fun _ recurs => clear.recurs recurs rfl⟩)
    (fun _ _ _ recurs => .inl (clear.recurs recurs rfl)) fun _ => clear

theorem keeps_recordCondition (type : String) (changes : List Condition.Change)
    (clear : Clear steady notifier trail) :
    (recordCondition type changes : Pass δ κ Notifier Unit).Keeps (rules scope steady key notifier)
      (fun _ _ => Clear steady notifier) r trail := by
  refine keeps_stamped_bind trivial fun now trail' recurs change => ?_
  exact Keeps.bind (clear.recurs recurs rfl).keeps_patchStatus fun _ _ _ clear' => keeps_pure clear'

theorem keeps_announce (channel : κ) (marker : Marker) (provider : Provider) (ip : String)
    (clear : Clear steady notifier trail) :
    (announce channel marker provider ip : Pass δ κ Notifier Unit).Keeps
      (rules scope steady key notifier) (fun _ _ => Clear steady notifier) r trail := by
  refine keeps_ask_bind trivial fun reply trail₁ recurs₁ => ?_
  refine keeps_ask_bind trivial fun _ trail₂ recurs₂ => ?_
  have clear₂ := (clear.recurs recurs₁ rfl).recurs recurs₂ rfl
  cases reply with
  | ok value =>
    refine Keeps.bind (clear₂.keeps_recordCondition _ _) fun _ r₃ trail₃ clear₃ => ?_
    refine keeps_ask_bind trivial fun reply trail₄ recurs₄ => ?_
    have clear₄ := clear₃.recurs recurs₄ rfl
    cases reply with
    | ok value => exact keeps_pure clear₄
    | error failure => exact keeps_throw _ (.inl clear₄)
  | error e =>
    refine keeps_stamped_bind trivial fun now trail₃ recurs₃ change => ?_
    refine Keeps.bind (clear₂.recurs recurs₃ rfl).keeps_patchStatus fun _ r₄ trail₄ clear₄ => ?_
    exact keeps_proceed (fun _ _ => clear₄) fun _ _ => .inl clear₄

theorem keeps_announceAll (channel : κ) (marker : Marker) (providers : List Provider)
    (clear : Clear steady notifier trail) :
    (announceAll channel marker providers : Pass δ κ Notifier Unit).Keeps
      (rules scope steady key notifier) (fun _ _ => Clear steady notifier) r trail := by
  induction providers generalizing r trail with
  | nil => exact keeps_pure clear
  | cons provider rest ih =>
    rw [announceAll]
    cases pending? marker provider with
    | none => exact ih clear
    | some ip => exact Keeps.bind (clear.keeps_announce channel marker provider ip) fun _ _ _ => ih

end Clear

/-! ### The pass -/

/-- Where the secret and the config map are there, a channel or a greeting is in the way. -/
theorem of_supplied {greets : Bool} (impasse : Impasse steady notifier greets) {secret : Secret}
    {configMap : ConfigMap} (found : steady (.getSecret notifier.secretKey) = .ok secret)
    (found' : steady (.getConfigMap notifier.configMapKey) = .ok configMap) :
    Notifier.Supplied notifier notifier ∧
      ((greets = false ∧ ∃ e,
          steady (.createChannel notifier.spec.name secret configMap) = .error e ∧
            notifier.Reports Condition.typeClient
              (fails Wording.clientCreated (Wording.creationFailed e.text))) ∨
        (greets = true ∧ notifier.statusOrInitial.isReady = false ∧ ∃ channel e,
          steady (.createChannel notifier.spec.name secret configMap) = .ok channel ∧
            steady (.greet channel) = .error e ∧ notifier.Reports Condition.typeClient
              (fails Wording.clientCommunication (Wording.greetingsFailed e.text)))) := by
  cases impasse with
  | secret _ missing =>
    rw [found] at missing
    cases missing
  | configMap _ _ _ missing =>
    rw [found'] at missing
    cases missing
  | channel declared hsecret unlocked hconfigMap equipped refused told =>
    rw [found] at hsecret
    cases hsecret
    rw [found'] at hconfigMap
    cases hconfigMap
    exact ⟨⟨⟨⟨rfl, declared⟩, unlocked⟩, equipped⟩, .inl ⟨rfl, _, refused, told⟩⟩
  | greeting declared hsecret unlocked hconfigMap equipped built unready refused told =>
    rw [found] at hsecret
    cases hsecret
    rw [found'] at hconfigMap
    cases hconfigMap
    exact ⟨⟨⟨⟨rfl, declared⟩, unlocked⟩, equipped⟩,
      .inr ⟨rfl, unready, _, _, built, refused, told⟩⟩

/-- Where a channel is to be had, only a greeting can be in the way. -/
theorem of_built {greets : Bool} (impasse : Impasse steady notifier greets) {secret : Secret}
    {configMap : ConfigMap} {channel : κ}
    (found : steady (.getSecret notifier.secretKey) = .ok secret)
    (found' : steady (.getConfigMap notifier.configMapKey) = .ok configMap)
    (built : steady (.createChannel notifier.spec.name secret configMap) = .ok channel) :
    greets = true ∧ notifier.statusOrInitial.isReady = false ∧ Notifier.Supplied notifier notifier ∧
      ∃ e, steady (.greet channel) = .error e ∧ notifier.Reports Condition.typeClient
        (fails Wording.clientCommunication (Wording.greetingsFailed e.text)) := by
  obtain ⟨supplied, ⟨-, e, refused, -⟩ | ⟨hgreets, unready, channel', e, built', refused, told⟩⟩ :=
    impasse.of_supplied found found'
  · rw [built] at refused
    cases refused
  · rw [built] at built'
    cases built'
    exact ⟨hgreets, unready, supplied, e, refused, told⟩

/-- A pass that greets in vain has written twice, if its notifier was at this impasse before. -/
theorem keeps_greet {secret : Secret} {configMap : ConfigMap} {channel : κ} {r₀ : Notifier}
    {more : Bool} (found : steady (.getSecret notifier.secretKey) = .ok secret)
    (found' : steady (.getConfigMap notifier.configMapKey) = .ok configMap)
    (built : steady (.createChannel notifier.spec.name secret configMap) = .ok channel)
    (settles : notifier.Settles (Notifier.Supplied notifier) sent r₀)
    (records : r₀.Records Condition.typeClient r₀.creation more r)
    (unready : r.statusOrInitial.isReady = false)
    (held : Held key asked (sent + more.toNat) r trail)
    (succeeded : ∀ answered ∈ asked, answered.succeeded = true) :
    (greet channel : Pass δ κ Notifier Unit).Keeps (rules scope steady key notifier)
      (fun _ _ => Clear steady notifier) r trail := by
  refine keeps_ask_bind trivial fun reply trail₁ recurs₁ => ?_
  refine keeps_ask_bind trivial fun _ trail₂ recurs₂ => ?_
  obtain ⟨hreply, held₁⟩ := asks held recurs₁ rfl
  have harmless : (Call.record (.message Metrics.greetingMessage reply.isOk) :
    Call δ κ).Harmless := trivial
  have held₂ := unrefused.aside held₁ recurs₂ harmless
  cases reply with
  | ok value =>
    have clear₂ : Clear steady notifier trail₂ := by
      refine ⟨unobstructed_of_held held₂ fun answered hanswered => ?_, fun greets impasse => ?_⟩
      · rcases List.mem_append.1 hanswered with h | h
        · exact succeeded answered h
        · rw [List.mem_singleton.1 h]
          rfl
      · obtain ⟨-, -, -, e, refused, -⟩ := impasse.of_built found found' built
        rw [← hreply] at refused
        cases refused
    refine keeps_stamped_bind trivial fun now trail₃ recurs₃ change => ?_
    refine Keeps.bind (clear₂.recurs recurs₃ rfl).keeps_patchStatus fun _ _ _ clear₄ => ?_
    exact keeps_pure clear₄
  | error e =>
    refine Keeps.bind ((unrefused.follows _ _).recordCondition _ _ held₂) fun _ r₃ trail₃ h => ?_
    obtain ⟨more', records', held₃⟩ := h
    apply keeps_proceed_error
    have supplied : Notifier.Supplied notifier r₃ := (settles.reached.records records).records records'
    have told := records'.reports (Condition.settling_fails _ _ _)
    have hready : r₃.statusOrInitial.isReady = false :=
      (Notifier.isReady_of_records records').trans unready
    have hmetadata : r₃.metadata = notifier.metadata ∧ r₃.spec = notifier.spec := by
      obtain ⟨⟨now, rfl⟩, -⟩ := records
      obtain ⟨⟨now', rfl⟩, -⟩ := records'
      exact ⟨settles.metadata, settles.spec⟩
    have hsecret : r₃.secretKey = notifier.secretKey := by
      rw [Resource.secretKey, hmetadata.1, hmetadata.2, Resource.secretKey]
    have hconfigMap : r₃.configMapKey = notifier.configMapKey := by
      rw [Resource.configMapKey, hmetadata.1, hmetadata.2, Resource.configMapKey]
    have impasse : Impasse steady r₃ true := by
      refine .greeting supplied.1.1.2 (hsecret ▸ found) supplied.1.2 (hconfigMap ▸ found')
        supplied.2 ?_ hready hreply.symm told
      rw [hmetadata.2]
      exact built
    refine .inr ⟨r₃, true, held₃.holds, held₃.own, impasse, ?_, fun greets impasse => ?_⟩
    · rw [greetings_of_held held₃, greetings, List.filterMap_append]
      simp
    · obtain ⟨hgreets, -, supplied, e', refused, told'⟩ := impasse.of_built found found' built
      rw [← hreply] at refused
      cases refused
      -- The condition of the client failed, so a channel that was built made it hold, and the
      -- greeting made it fail again.
      obtain ⟨rfl, hstatus⟩ := settles.idle supplied
      have told₀ := told'.congr settles.generation_eq hstatus
      have unreported : ¬r₀.Reports Condition.typeClient r₀.creation := by
        rw [told₀.creation_eq_of_fails]
        exact fun h => h.hold.not_fails _ _ told₀
      have hmore : more = true := Bool.eq_true_of_not_eq_false fun h => unreported (records.2.1 h)
      have hmore' : more' = true :=
        Bool.eq_true_of_not_eq_false fun h => records.client.not_fails _ _ (records'.2.1 h)
      refine ⟨hgreets, ?_⟩
      rw [held₃.sent, hmore, hmore']
      rfl

theorem keeps_built {secret : Secret} {configMap : ConfigMap} {channel : κ} {r₀ : Notifier}
    {more : Bool} (found : steady (.getSecret notifier.secretKey) = .ok secret)
    (found' : steady (.getConfigMap notifier.configMapKey) = .ok configMap)
    (built : steady (.createChannel notifier.spec.name secret configMap) = .ok channel)
    (settles : notifier.Settles (Notifier.Supplied notifier) sent r₀)
    (records : r₀.Records Condition.typeClient r₀.creation more r)
    (held : Held key asked (sent + more.toNat) r trail)
    (succeeded : ∀ answered ∈ asked, answered.succeeded = true) :
    (do
      if !(← get).statusOrInitial.isReady then
        greet channel
        return .requeue 0
      let marker := Marker.ofNotifier (← get)
      match ← ask .listProviders with
      | .error failure => throw failure
      | .ok providers => announceAll channel marker (providers.filter fun p => p.refersTo key)
      let _ ← patchStatus (putNotifierGeneration (some (← get).generation))
      return .awaitChange : Pass δ κ Notifier Next).Keeps (rules scope steady key notifier)
      (fun _ _ => Clear steady notifier) r trail := by
  refine keeps_get_bind ?_
  cases hready : r.statusOrInitial.isReady with
  | false =>
    refine Keeps.bind (keeps_greet found found' built settles records hready held succeeded) ?_
    exact fun _ _ _ clear => keeps_pure clear
  | true =>
    have clear : Clear steady notifier trail := by
      refine ⟨unobstructed_of_held held succeeded, fun greets impasse => ?_⟩
      obtain ⟨-, unready, -⟩ := impasse.of_built found found' built
      have hsame : r.statusOrInitial.isReady = notifier.statusOrInitial.isReady :=
        (Notifier.Supplied.records settles.reached records).1.1.1
      rw [hready, unready] at hsame
      cases hsame
    refine keeps_get_bind (keeps_ask_bind trivial fun listed trail₁ recurs₁ => ?_)
    have clear₁ := clear.recurs recurs₁ rfl
    cases listed with
    | error failure => exact keeps_throw_bind _ (.inl clear₁)
    | ok providers =>
      refine Keeps.bind (clear₁.keeps_announceAll _ _ _) fun _ r₂ trail₂ clear₂ => ?_
      refine keeps_get_bind (Keeps.bind clear₂.keeps_patchStatus fun _ _ _ clear₃ => ?_)
      exact keeps_pure clear₃

theorem keeps_overNotifier (start : Held key [] 0 notifier trail) :
    (overNotifier key : Pass δ κ Notifier Next).Keeps (rules scope steady key notifier)
      (fun _ _ => Clear steady notifier) notifier trail := by
  refine Keeps.bind ((unrefused.follows [] 0).ensureDeclared start) ?_
  rintro _ r₁ trail₁ ⟨more, declares, held₁⟩
  have settles₀ : notifier.Settles (fun r : Notifier =>
      r.statusOrInitial.isReady = notifier.statusOrInitial.isReady) 0 notifier :=
    Resource.Settles.start rfl
  have settles₁ : notifier.Settles (Notifier.Placed notifier) _ r₁ :=
    settles₀.declare declares (Notifier.isReady_of_declares declares)
  refine Keeps.bind (keeps_unlock (fun _ _ => unrefused.follows_met _ _ _ _ _) settles₁ ⟨trivial, meets held₁ rfl⟩
    (fun _ _ _ records => settles₁.reached.records records)
    fun e n r trail settles ⟨missing, held⟩ => ?_) ?_
  · have impasse : Impasse steady r false :=
      .secret settles.reached.1.2 (settles.secretKey_eq ▸ missing) settles.reached.2
    refine blocked held rfl impasse settles fun greets before => ?_
    cases before with
    | secret declared missing' told =>
      rw [missing] at missing'
      cases missing'
      exact ⟨rfl, ⟨rfl, declared⟩, told⟩
    | configMap _ found | channel _ found | greeting _ found =>
      rw [missing] at found
      cases found
  rintro secret r₂ trail₂ ⟨n₂, settles₂, found, held₂⟩
  refine Keeps.bind (keeps_equip (fun _ _ => unrefused.follows_met _ _ _ _ _) settles₂ ⟨trivial, meets held₂ rfl⟩
    (fun _ _ _ records => ⟨settles₂.reached.1.records records,
      records.unlocked settles₂.reached.2 (by decide)⟩)
    fun e n r trail settles ⟨missing, held⟩ => ?_) ?_
  · have impasse : Impasse steady r false :=
      .configMap settles.reached.1.1.2 (settles.secretKey_eq ▸ found) settles.reached.1.2
        (settles.configMapKey_eq ▸ missing) settles.reached.2
    refine blocked held rfl impasse settles fun greets before => ?_
    cases before with
    | secret _ missing' =>
      rw [found] at missing'
      cases missing'
    | configMap declared _ unlocked missing' told =>
      rw [missing] at missing'
      cases missing'
      exact ⟨rfl, ⟨⟨rfl, declared⟩, unlocked⟩, told⟩
    | channel _ _ _ found' | greeting _ _ _ found' =>
      rw [missing] at found'
      cases found'
  rintro configMap r₃ trail₃ ⟨n₃, settles₃, found', held₃⟩
  refine keeps_get_bind (keeps_ask_bind trivial fun created trail₄ recurs₄ => ?_)
  obtain ⟨hcreated, held₄⟩ := asks held₃ recurs₄ rfl
  rw [settles₃.spec] at hcreated
  cases created with
  | error e =>
    refine Keeps.bind_of_false ((unrefused.follows _ _).recordCreation_error e held₄
      fun more r trail records held => ?_)
    have settles := settles₃.record records (Condition.settling_fails _ _ _)
      (Notifier.Supplied.records settles₃.reached records)
    have supplied : Notifier.Supplied notifier r := settles.reached.1
    have impasse : Impasse steady r false := by
      refine .channel supplied.1.1.2 (settles.secretKey_eq ▸ found) supplied.1.2
        (settles.configMapKey_eq ▸ found') supplied.2 ?_ settles.reached.2
      rw [settles.spec]
      exact hcreated.symm
    refine blocked held rfl impasse settles fun greets before => ?_
    obtain ⟨supplied', ⟨hgreets, e', refused, told⟩ | ⟨-, -, channel, e', built, -⟩⟩ :=
      before.of_supplied found found'
    · rw [← hcreated] at refused
      cases refused
      exact ⟨hgreets, supplied', told⟩
    · rw [← hcreated] at built
      cases built
  | ok channel =>
    refine Keeps.bind ((unrefused.follows _ _).recordCreation channel held₄) ?_
    rintro channel r₅ trail₅ ⟨rfl, more₅, records₅, held₅⟩
    refine keeps_built found found' hcreated.symm settles₃ records₅ held₅ ?_
    simp [Answered.succeeded, Except.isOk, Except.toBool]

theorem notifier_obeys (own : notifier.key = key) {cluster : Cluster}
    (found : cluster.stored? key = some notifier) :
    (Pass.notifier key : Calling δ κ Outcome).Obeys (rules scope steady key notifier)
      (fun outcome trail => match outcome with
        | .ok _ => Clear steady notifier trail
        | .error _ => Clear steady notifier trail ∨ Blocked steady key notifier trail)
      ⟨cluster, []⟩ := by
  refine ⟨trivial, fun reply trail recurs => ?_⟩
  obtain ⟨outside, -, hanswer⟩ := recurs
  obtain ⟨hreply, htrail⟩ := Prod.mk.inj hanswer
  have hread : reply = .ok (some notifier) := hreply.symm.trans (congrArg Except.ok found)
  subst hread
  have held : Held key [] 0 notifier trail := by
    rw [← htrail]
    exact ⟨.of_stored found, own, rfl, rfl⟩
  exact (keeps_overNotifier held).obeys (fun _ _ _ clear => clear) fun _ _ h => h

end Impasse

/-! ### Repeated passes -/

def Repeats (scope : Option String) (steady : (call : Call δ κ) → call.Reply) (key : ObjectKey)
    (cluster cluster' : Cluster) : Prop :=
  ∃ outcome trail, (Pass.notifier key : Calling δ κ Outcome).Yields (Trail.Recurs scope steady)
    ⟨cluster, []⟩ outcome trail ∧ trail.cluster = cluster'

def Stuck (steady : (call : Call δ κ) → call.Reply) (key : ObjectKey) (greets : Bool)
    (cluster : Cluster) : Prop :=
  ∃ r : Notifier, cluster.Holds key r ∧ r.key = key ∧ Impasse steady r greets

variable {cluster cluster' : Cluster} {outcome : Outcome} {greets : Bool}

theorem clear_or_blocked (found : cluster.stored? key = some notifier) (own : notifier.key = key)
    (run : (Pass.notifier key : Calling δ κ Outcome).Yields (Trail.Recurs scope steady)
      ⟨cluster, []⟩ outcome trail) :
    Impasse.Clear steady notifier trail ∨
      outcome.isOk = false ∧ Impasse.Blocked steady key notifier trail := by
  have ends := (Impasse.notifier_obeys own found).ends_of_yields run
  cases outcome with
  | ok next => exact .inl ends
  | error failure => exact ends.imp_right fun blocked => ⟨rfl, blocked⟩

/-- A pass over a notifier at an impasse fails again, leaves it there, and has nothing to send unless it
greets. -/
theorem Stuck.pass (stuck : Stuck steady key greets cluster)
    (run : (Pass.notifier key : Calling δ κ Outcome).Yields (Trail.Recurs scope steady)
      ⟨cluster, []⟩ outcome trail) :
    outcome.isOk = false ∧ Stuck steady key greets trail.cluster ∧
      trail.patches = if greets then 2 else 0 := by
  obtain ⟨r, held, own, impasse⟩ := stuck
  have ⟨stored, found, hmetadata, hspec, inStep⟩ := held
  have impasse' : Impasse steady stored greets := impasse.congr hmetadata hspec inStep.getD_eq
  have own' : stored.key = key := by
    rw [Resource.key, hmetadata]
    exact own
  rcases clear_or_blocked found own' run with clear | ⟨hfailed, r', greets', holds, own, again, -, same⟩
  · exact absurd impasse' (clear.passable greets)
  · obtain ⟨rfl, hpatches⟩ := same greets impasse'
    exact ⟨hfailed, ⟨r', holds, own, again⟩, hpatches⟩

theorem Stuck.repeats (stuck : Stuck steady key greets cluster)
    (again : Relation.ReflTransGen (Repeats scope steady key) cluster cluster') :
    Stuck steady key greets cluster' := by
  induction again with
  | refl => exact stuck
  | tail _ last ih =>
    obtain ⟨outcome, trail, run, rfl⟩ := last
    exact (ih.pass run).2.1

/-- An obstacle is met again. If a pass over a stored notifier met a secret, a config map, a channel or
a greeting that was not to be had, it failed, and while that stays so and nobody else changes the
notifier, every further pass fails. It sends no status patch, unless the first pass had come to greet:
then it sends two. -/
theorem obstacle_repeats (scope : Option String) (steady : (call : Call δ κ) → call.Reply)
    (found : cluster.stored? key = some notifier) (own : notifier.key = key)
    (run : (Pass.notifier key : Calling δ κ Outcome).Yields (Trail.Recurs scope steady)
      ⟨cluster, []⟩ outcome trail)
    (obstructed : ∃ answered ∈ trail.calls, answered.Obstructs) :
    outcome.isOk = false ∧
      ∀ cluster', Relation.ReflTransGen (Repeats scope steady key) trail.cluster cluster' →
        ∀ outcome' trail', (Pass.notifier key : Calling δ κ Outcome).Yields
          (Trail.Recurs scope steady) ⟨cluster', []⟩ outcome' trail' →
            outcome'.isOk = false ∧
              trail'.patches = if greetings trail.calls = [] then 0 else 2 := by
  rcases clear_or_blocked found own run with clear | ⟨hfailed, r, greets, holds, own', impasse, hgreets, -⟩
  · obtain ⟨answered, hanswered, obstructs⟩ := obstructed
    exact absurd obstructs (clear.unobstructed answered hanswered)
  · refine ⟨hfailed, fun cluster' again outcome' trail' run' => ?_⟩
    have stuck : Stuck steady key greets trail.cluster := ⟨r, holds, own', impasse⟩
    obtain ⟨hfailed', -, hpatches⟩ := (stuck.repeats again).pass run'
    refine ⟨hfailed', hpatches.trans ?_⟩
    by_cases h : greets = true
    · rw [if_pos h, if_neg (hgreets.1 h)]
    · rw [if_neg h, if_pos (not_not.1 fun hne => h (hgreets.2 hne))]

end Pass

theorem Trail.recurs_answer (scope : Option String) (steady : (call : Call δ κ) → call.Reply)
    (call : Call δ κ) (trail : Trail δ κ) :
    trail.Recurs scope steady call (trail.answer scope none steady call).1
      (trail.answer scope none steady call).2 :=
  ⟨steady, fun _ _ => rfl, rfl⟩

def Home.greetInVain (cluster : Cluster) : Pass.Outcome × Trail Unit Unit :=
  (Pass.notifier (Home.key "hook")).run
    (fun call trail => trail.answer none none (Home.outside "192.0.2.7" [.greet]) call)
    ⟨cluster, []⟩

/-- A hook that cannot be greeted is written to by each pass. -/
theorem Pass.obstacle_repeats_at_home :
    let hook := Home.key "hook"
    let first := Home.greetInVain Home.cluster
    let second := Home.greetInVain first.2.cluster
    Home.cluster.stored? hook = some Home.hook ∧ Home.hook.key = hook ∧
      (∃ answered ∈ first.2.calls, answered.Obstructs) ∧ first.1.isOk = false ∧
        second.1.isOk = false ∧ second.2.patches = 2 := by
  intro hook first second
  let steady : (call : Call Unit Unit) → call.Reply := Home.outside "192.0.2.7" [.greet]
  have yields (cluster : Cluster) : (Pass.notifier hook : Calling Unit Unit Pass.Outcome).Yields
      (Trail.Recurs none steady) ⟨cluster, []⟩ (Home.greetInVain cluster).1
        (Home.greetInVain cluster).2 :=
    Program.yields_run (fun call trail => Trail.recurs_answer none steady call trail) _ _
  have found : Home.cluster.stored? hook = some Home.hook := rfl
  have obstructed : ∃ answered ∈ first.2.calls, answered.call.collaborates = true ∧
      answered.succeeded = false := by
    decide +kernel
  have greeted : Pass.greetings first.2.calls ≠ [] := by
    decide +kernel
  have own : Home.hook.key = hook := rfl
  have run : (Pass.notifier hook : Calling Unit Unit Pass.Outcome).Yields
      (Trail.Recurs none steady) ⟨Home.cluster, []⟩ first.1 first.2 := yields Home.cluster
  obtain ⟨hfirst, repeats⟩ := Pass.obstacle_repeats none steady found own run obstructed
  obtain ⟨hsecond, hpatches⟩ :=
    repeats first.2.cluster .refl second.1 second.2 (yields first.2.cluster)
  rw [if_neg greeted] at hpatches
  exact ⟨found, own, obstructed, hfirst, hsecond, hpatches⟩

/-- Though all that a failed pass wrote was accepted and the readiness is as it was, the next pass
writes. -/
theorem Home.greetInVain_writes :
    let first := Home.greetInVain Home.cluster
    let second := Home.greetInVain first.2.cluster
    first.1.isOk = false ∧
      (∀ answered ∈ first.2.calls, answered.call.act? = some .patchStatus →
        answered.succeeded = true) ∧
      first.2.cluster.isReady (Home.key "hook") = Home.cluster.isReady (Home.key "hook") ∧
        second.2.patches ≠ 0 := by
  decide +kernel

end DynamicDns
