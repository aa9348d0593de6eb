import DynamicDns.Proofs.Run.Relay

/-!
# What a notifier pass attempts

The messages of a notifier pass announce what was due first among its listing, in order and with
nothing left out in between, and a pass fails only if one of its calls did. So a message is attempted
unless a call before it fails: if the pass had ended without it, it would have ended well, and then all
that was due is announced (`attempts`).
-/

namespace DynamicDns

open Pass

variable {δ κ : Type}

namespace Pass

def texts (past : List (Answered δ κ)) : List String := (messages past.reverse).map Prod.fst

theorem texts_cons (answered : Answered δ κ) (past : List (Answered δ κ)) :
    texts (answered :: past) = texts past ++ texts [answered] := by
  rw [texts, List.reverse_cons, messages, List.filterMap_append, List.map_append]
  rfl

theorem texts_of_quiet {answered : Answered δ κ} (quiet : texts [answered] = [])
    (past : List (Answered δ κ)) : texts (answered :: past) = texts past := by
  rw [texts_cons, quiet, List.append_nil]

theorem length_texts (past : List (Answered δ κ)) : (texts past).length = (notices past).length := by
  induction past with
  | nil => rfl
  | cons answered past ih =>
    obtain ⟨call, reply⟩ := answered
    rw [texts_cons, List.length_append, ih]
    cases call <;> rfl

/-! ### The order of the messages -/

def Announced (key : ObjectKey) (past : List (Answered δ κ)) : Prop :=
  texts past = [] ∨ ∃ notifier listed told, readings past = [.ok (some notifier)] ∧
    listings past = [.ok listed] ∧ told <+: dueAmong key (Marker.ofNotifier notifier) listed ∧
      texts past = told.map announcement

namespace Stage

/-- Which messages a past has sent at a stage: all that was due and is not any more. -/
def Voices (key : ObjectKey) (past : List (Answered δ κ)) : Stage → Prop
  | .opening | .absent | .preparing _ | .greeted _ _ | .promoted _ => texts past = []
  | .announcing notifier listed due =>
    ∃ told, dueAmong key (Marker.ofNotifier notifier) listed = told ++ due ∧
      texts past = told.map announcement
  | .owing notifier listed provider ip due =>
    ∃ told, dueAmong key (Marker.ofNotifier notifier) listed = told ++ (provider, ip) :: due ∧
      texts past = (told ++ [(provider, ip)]).map announcement
  | .refused _ | .demoted _ | .finished => Announced key past

variable {key : ObjectKey} {past : List (Answered δ κ)} {stage : Stage}

theorem Voices.announced (voices : Voices key past stage) (told : Tells key past stage) :
    Announced key past := by
  cases stage with
  | opening | absent | preparing | greeted | promoted => exact .inl voices
  | announcing notifier listed due =>
    obtain ⟨before, hdue, htexts⟩ := voices
    exact .inr ⟨notifier, listed, before, told.1, told.2.1, ⟨due, hdue.symm⟩, htexts⟩
  | owing notifier listed provider ip due =>
    obtain ⟨before, hdue, htexts⟩ := voices
    refine .inr ⟨notifier, listed, before ++ [(provider, ip)], told.1, told.2.1, ⟨due, ?_⟩, htexts⟩
    rw [hdue, List.append_assoc, List.singleton_append]
  | refused | demoted | finished => exact voices

theorem Voices.aside (voices : Voices key past stage) {answered : Answered δ κ}
    (quiet : texts [answered] = []) (hreadings : readings (answered :: past) = readings past)
    (hlistings : listings (answered :: past) = listings past) :
    Voices key (answered :: past) stage := by
  have htexts := texts_of_quiet quiet past
  cases stage <;> simpa only [Voices, Announced, htexts, hreadings, hlistings] using voices

theorem Voices.next (voices : Voices key past stage) (told : Tells key past stage)
    {call : Call δ κ} (allowed : allows key stage call) (reply : call.Reply) :
    Voices key (⟨call, reply⟩ :: past) (stage.next key call reply) := by
  cases call with
  | getNotifier k =>
    obtain ⟨rfl, -⟩ := allowed
    have silent : texts (⟨.getNotifier k, reply⟩ :: past) = [] :=
      (texts_of_quiet rfl past).trans voices
    cases reply with
    | error failure => exact .inl silent
    | ok found => cases found <;> exact silent
  | listProviders =>
    obtain ⟨notifier, rfl, -⟩ := allowed
    have silent : texts (⟨.listProviders, reply⟩ :: past) = [] := (texts_of_quiet rfl past).trans voices
    cases reply with
    | error failure => exact .inl silent
    | ok listed => exact ⟨[], rfl, silent⟩
  | greet channel =>
    obtain ⟨notifier, rfl, -⟩ := allowed
    exact (texts_of_quiet rfl past).trans voices
  | notify channel message =>
    obtain ⟨provider, ip, hnext, rfl⟩ := allowed
    obtain ⟨notifier, listed, due, rfl⟩ := announces?_eq_some hnext
    obtain ⟨before, hdue, htexts⟩ := voices
    have hsent (reply : Except ChannelError Unit) : texts (⟨.notify channel
        (announcement (provider, ip)), reply⟩ :: past) =
        (before ++ [(provider, ip)]).map announcement := by
      rw [texts_cons, htexts, List.map_append]
      rfl
    cases reply with
    | ok value => exact ⟨before, hdue, hsent _⟩
    | error e =>
      refine .inr ⟨notifier, listed, _, told.1, told.2.1, ⟨due, ?_⟩, hsent _⟩
      rw [hdue, List.append_assoc, List.singleton_append]
  | patchStatus kind k patch =>
    cases reply with
    | error failure =>
      change Voices key _ (stage.afterWriting false)
      rw [afterWriting_false]
      have ended : Voices key past .finished := voices.announced told
      exact ended.aside rfl rfl rfl
    | ok value =>
      have voices' : Voices key (⟨.patchStatus kind k patch, .ok value⟩ :: past) stage :=
        voices.aside rfl rfl rfl
      cases stage with
      | greeted notifier delivered => cases delivered <;> exact voices'
      | _ => exact voices'
  | patchProvider k patch =>
    obtain ⟨notifier, provider, ip, howes, -⟩ := allowed
    obtain ⟨listed, due, rfl⟩ := owes?_eq_some howes
    cases reply with
    | error failure =>
      have ended : Voices key past .finished := voices.announced told
      exact ended.aside rfl rfl rfl
    | ok value =>
      obtain ⟨before, hdue, htexts⟩ := voices
      refine ⟨before ++ [(provider, ip)], ?_, (texts_of_quiet rfl past).trans htexts⟩
      rw [hdue, List.append_assoc, List.singleton_append]
  | getSecret | getConfigMap | createChannel | now | elapsed | record =>
    cases stage <;> exact voices.aside rfl rfl rfl
  | getProvider | publicIp | createClient | getIp | setIp => cases allowed

theorem voices (lawful : Lawful key past) : Voices key past (of key past) := by
  induction past with
  | nil => rfl
  | cons answered past ih => exact (ih lawful.2).next (tells lawful.2) lawful.1 answered.reply

end Stage

/-! ### Why a pass fails -/

namespace Blame

def Failed (past : List (Answered δ κ)) : Prop := ∃ answered ∈ past, answered.succeeded = false

/-- Calls are made and answered in any way, and a pass may fail once one of them has failed. -/
def rules (δ κ : Type) : Program.Rules (@Call.Reply δ κ) (List (Answered δ κ)) where
  allows _ _ := True
  answers past call reply past' := past' = ⟨call, reply⟩ :: past
  fails := Failed

variable {past : List (Answered δ κ)} {r : Notifier}

theorem Failed.cons (h : Failed past) (answered : Answered δ κ) : Failed (answered :: past) := by
  obtain ⟨failed, hmem, hfailed⟩ := h
  exact ⟨failed, List.mem_cons_of_mem _ hmem, hfailed⟩

theorem failed_head {answered : Answered δ κ} (h : answered.succeeded = false) :
    Failed (answered :: past) :=
  ⟨answered, List.mem_cons_self, h⟩

def Lasting (known : List (Answered δ κ) → Prop) : Prop :=
  ∀ past answered, known past → known (answered :: past)

variable {known : List (Answered δ κ) → Prop}

theorem keeps_patchStatus (lasting : Lasting known) (mutate : Mutation NotifierStatus)
    (h : known past) :
    (patchStatus mutate : Pass δ κ Notifier Bool).Keeps (rules δ κ) (fun _ _ => known) r past :=
  Pass.keeps_patchStatus (fun _ => ⟨trivial, fun _ after => after ▸ lasting _ _ h⟩)
    (fun _ _ _ after => after ▸ failed_head rfl) fun _ => h

theorem tolerant (lasting : Lasting known) :
    Tolerant (rules δ κ) fun (_ : Notifier) past => known past where
  clock _ _ h := ⟨trivial, fun _ _ after => after ▸ lasting _ _ h⟩
  sends _ _ h _ := ⟨trivial, fun _ after => after ▸ lasting _ _ h⟩
  refused _ _ _ _ _ _ after := after ▸ failed_head rfl
  keeps _ _ h _ := h

theorem lasting_true : Lasting fun _ : List (Answered δ κ) => True := fun _ _ h => h

theorem lasting_failed : Lasting (Failed : List (Answered δ κ) → Prop) := fun _ answered h => h.cons answered

theorem lasting_unless (holds : Bool) :
    Lasting fun past : List (Answered δ κ) => holds = false → Failed past :=
  fun _ answered h fails => (h fails).cons answered

theorem keeps_greet (channel : κ) :
    (greet channel : Pass δ κ Notifier Unit).Keeps (rules δ κ) (fun _ _ _ => True) r past := by
  refine keeps_ask_bind trivial ?_
  rintro reply _ rfl
  refine keeps_ask_bind trivial ?_
  rintro _ _ rfl
  cases reply with
  | ok value =>
    refine keeps_stamped_bind trivial fun now after _ change => ?_
    exact Keeps.bind (keeps_patchStatus lasting_true _ trivial) fun _ _ _ h => keeps_pure h
  | error e =>
    refine Keeps.bind ((tolerant lasting_failed).recordCondition _ _ ((failed_head rfl).cons _)) ?_
    exact fun _ _ _ failed => keeps_proceed_error failed

theorem keeps_announce (channel : κ) (marker : Marker) (provider : Provider) (ip : String) :
    (announce channel marker provider ip : Pass δ κ Notifier Unit).Keeps (rules δ κ)
      (fun _ _ _ => True) r past := by
  refine keeps_ask_bind trivial ?_
  rintro reply _ rfl
  refine keeps_ask_bind trivial ?_
  rintro _ _ rfl
  cases reply with
  | ok value =>
    refine Keeps.bind ((tolerant lasting_true).recordCondition _ _ trivial) fun _ _ _ _ => ?_
    refine keeps_ask_bind trivial ?_
    rintro reply _ rfl
    cases reply with
    | ok value => exact keeps_pure trivial
    | error failure => exact keeps_throw _ (failed_head rfl)
  | error e =>
    refine keeps_stamped_bind trivial ?_
    rintro now _ rfl change
    refine Keeps.bind (keeps_patchStatus lasting_failed _ (((failed_head rfl).cons _).cons _)) ?_
    exact fun _ _ _ failed => keeps_proceed_error failed

theorem keeps_announceAll (channel : κ) (marker : Marker) (providers : List Provider) :
    (announceAll channel marker providers : Pass δ κ Notifier Unit).Keeps (rules δ κ)
      (fun _ _ _ => True) r past := by
  induction providers generalizing r past with
  | nil => exact keeps_pure trivial
  | cons provider rest ih =>
    rw [announceAll]
    cases pending? marker provider with
    | none => exact ih
    | some ip => exact Keeps.bind (keeps_announce channel marker provider ip) fun _ _ _ _ => ih

theorem keeps_recordCreation (channel : κ) :
    (recordCreation .channel ChannelError.text (.ok channel) : Pass δ κ Notifier κ).Keeps (rules δ κ)
      (fun _ _ _ => True) r past := by
  refine keeps_get_bind ?_
  exact Keeps.bind ((tolerant lasting_true).recordCondition _ _ trivial) fun _ _ _ h => keeps_pure h

theorem keeps_overNotifier (key : ObjectKey) :
    (overNotifier key : Pass δ κ Notifier Next).Keeps (rules δ κ) (fun _ _ _ => True) r past := by
  have looked (reply : Bool) : Tolerant (rules δ κ)
      fun (_ : Notifier) past => reply = false → Failed past := tolerant (lasting_unless reply)
  refine Keeps.bind (keeps_ensureDeclared (tolerant lasting_true) trivial) fun _ r past _ => ?_
  refine Keeps.bind (keeps_fetchSecret (fun reply _ past => reply.isOk = false → Failed past)
    (fun reply => looked reply.isOk) (fun _ _ _ h => h rfl) ⟨trivial, ?_⟩) fun secret r past _ => ?_
  · rintro reply _ rfl fails
    exact failed_head fails
  refine Keeps.bind (keeps_fetchConfigMap (fun reply _ past => reply.isOk = false → Failed past)
    (fun reply => looked reply.isOk) (fun _ _ _ h => h rfl) ⟨trivial, ?_⟩) fun configMap r past _ => ?_
  · rintro reply _ rfl fails
    exact failed_head fails
  refine keeps_get_bind (keeps_ask_bind trivial ?_)
  rintro created _ rfl
  cases created with
  | error e =>
    refine Keeps.bind ((tolerant lasting_failed).recordCreation (fun _ _ h => h) (failed_head rfl)) ?_
    rintro channel _ _ ⟨absurd, -⟩
    cases absurd
  | ok channel =>
    refine Keeps.bind (keeps_recordCreation channel) fun channel r past _ => keeps_get_bind ?_
    cases r.statusOrInitial.isReady with
    | false => exact Keeps.bind (keeps_greet channel) fun _ _ _ h => keeps_pure h
    | true =>
      refine keeps_get_bind (keeps_ask_bind trivial ?_)
      rintro reply _ rfl
      cases reply with
      | error failure => exact keeps_throw_bind failure (failed_head rfl)
      | ok listed =>
        refine Keeps.bind (keeps_announceAll channel _ _) fun _ r past _ => keeps_get_bind ?_
        exact Keeps.bind (keeps_patchStatus lasting_true _ trivial) fun _ _ _ h => keeps_pure h

/-- However it is answered, a notifier pass fails only if one of its calls did. -/
theorem notifier_obeys (key : ObjectKey) :
    (Pass.notifier key : Calling δ κ Outcome).Obeys (rules δ κ)
      (fun outcome past => outcome.isOk = false → Failed past) [] := by
  refine ⟨trivial, ?_⟩
  rintro reply _ rfl
  cases reply with
  | error failure => exact fun _ => failed_head rfl
  | ok found =>
    cases found with
    | none =>
      intro absurd
      cases absurd
    | some notifier =>
      exact (keeps_overNotifier key).obeys (fun _ _ _ _ absurd => by cases absurd)
        fun _ _ failed _ => failed

end Blame

/-! ### Messages that are attempted -/

/-- A notifier is read and providers are listed, and until the message with a number was sent, all
calls succeed. -/
def Prompts (notifier : Notifier) (listed : List Provider) (number : Nat)
    (past : List (Answered δ κ)) : (call : Call δ κ) → call.Reply → List (Answered δ κ) → Prop
  | .getNotifier key, reply, past' =>
    reply = .ok (some notifier) ∧ past' = ⟨.getNotifier key, reply⟩ :: past
  | .listProviders, reply, past' => reply = .ok listed ∧ past' = ⟨.listProviders, reply⟩ :: past
  | call, reply, past' =>
    ((notices past').length ≤ number → (⟨call, reply⟩ : Answered δ κ).succeeded = true) ∧
      past' = ⟨call, reply⟩ :: past

structure Prompted (notifier : Notifier) (listed : List Provider) (number : Nat)
    (past : List (Answered δ κ)) : Prop where
  read : ∀ reading ∈ readings past, reading = .ok (some notifier)
  listed : ∀ listing ∈ listings past, listing = .ok listed
  unfailing : Blame.Failed past → number < (notices past).length

variable {key : ObjectKey} {notifier : Notifier} {listed : List Provider} {number : Nat}
  {past past' : List (Answered δ κ)} {outcome : Outcome}

theorem Prompts.past_eq {call : Call δ κ} {reply : call.Reply}
    (prompts : Prompts notifier listed number past call reply past') :
    past' = ⟨call, reply⟩ :: past := by
  cases call <;> exact prompts.2

theorem Prompted.next (prompted : Prompted notifier listed number past) {call : Call δ κ}
    {reply : call.Reply} (prompts : Prompts notifier listed number past call reply past') :
    Prompted notifier listed number past' := by
  have hpast := prompts.past_eq
  have hnotices : (notices past).length ≤ (notices past').length := by
    rw [hpast, ← length_texts, ← length_texts, texts_cons, List.length_append]
    exact Nat.le_add_right _ _
  have unfailing (h : (notices past').length ≤ number → (⟨call, reply⟩ : Answered δ κ).succeeded = true) :
      Blame.Failed past' → number < (notices past').length := by
    rintro ⟨failed, hmem, hfailed⟩
    rw [hpast] at hmem
    rcases List.mem_cons.1 hmem with rfl | hmem
    · by_contra hle
      rw [h (Nat.not_lt.1 hle)] at hfailed
      cases hfailed
    · exact Nat.lt_of_lt_of_le (prompted.unfailing ⟨failed, hmem, hfailed⟩) hnotices
  cases call with
  | getNotifier k =>
    obtain ⟨rfl, -⟩ := prompts
    refine ⟨?_, hpast ▸ prompted.listed, unfailing fun _ => rfl⟩
    rw [hpast]
    exact List.forall_mem_cons.2 ⟨rfl, prompted.read⟩
  | listProviders =>
    obtain ⟨rfl, -⟩ := prompts
    refine ⟨hpast ▸ prompted.read, ?_, unfailing fun _ => rfl⟩
    rw [hpast]
    exact List.forall_mem_cons.2 ⟨rfl, prompted.listed⟩
  | _ => exact ⟨hpast ▸ prompted.read, hpast ▸ prompted.listed, unfailing prompts.1⟩

/-- A pass whose calls are recorded keeps to its stages. -/
theorem lawful_of_yields {answers : List (Answered δ κ) → (call : Call δ κ) → call.Reply →
      List (Answered δ κ) → Prop}
    (records : ∀ {past call reply past'}, answers past call reply past' →
      past' = ⟨call, reply⟩ :: past)
    (yields : (Pass.notifier key).Yields answers [] outcome past) :
    Stage.Lawful key past ∧ Stage.Ends outcome (Stage.of key past) := by
  let along (stage : Stage) (past : List (Answered δ κ)) : Prop :=
    stage = Stage.of key past ∧ Stage.Lawful key past
  have follows (stage : Stage) (past : List (Answered δ κ)) (call : Call δ κ) (reply : call.Reply)
      (past' : List (Answered δ κ)) (halong : along stage past)
      (allowed : (Stage.rules δ κ key).allows stage call) (answer : answers past call reply past') :
      ∃ stage', (Stage.rules δ κ key).answers stage call reply stage' ∧ along stage' past' := by
    obtain ⟨rfl, lawful⟩ := halong
    rw [records answer]
    exact ⟨_, rfl, rfl, allowed, lawful⟩
  have hstart : along .opening [] := ⟨rfl, trivial⟩
  obtain ⟨_, ends, rfl, lawful⟩ := (Pass.notifier_obeys key).of_yields along follows hstart yields
  exact ⟨lawful, ends⟩

theorem prompted_of_yields
    (yields : (Pass.notifier key).Yields (Prompts notifier listed number) [] outcome past) :
    Prompted notifier listed number past ∧ (outcome.isOk = false → Blame.Failed past) := by
  let along (past past' : List (Answered δ κ)) : Prop :=
    past = past' ∧ Prompted notifier listed number past'
  have hstart : along [] [] := by
    refine ⟨rfl, by simp [readings], by simp [listings], ?_⟩
    rintro ⟨_, hmem, -⟩
    cases hmem
  obtain ⟨_, hfails, rfl, prompted⟩ := (Blame.notifier_obeys key).of_yields along
    (fun _ _ _ _ past' halong _ prompts =>
      ⟨past', halong.1 ▸ prompts.past_eq, rfl, halong.2.next prompts⟩) hstart yields
  exact ⟨prompted, hfails⟩

/-- The message that has a number among what is due is sent, unless a call before it fails. -/
theorem attempts (ready : notifier.statusOrInitial.isReady = true)
    (yields : (Pass.notifier key).Yields (Prompts notifier listed number) [] outcome past)
    {entry : Provider × String}
    (due : (dueAmong key (Marker.ofNotifier notifier) listed)[number]? = some entry) :
    (texts past)[number]? = some (announcement entry) := by
  obtain ⟨prompted, hfails⟩ := prompted_of_yields yields
  obtain ⟨lawful, ends⟩ := lawful_of_yields Prompts.past_eq yields
  have told := Stage.tells lawful
  have voices := Stage.voices lawful
  have reads {other : Notifier} (h : readings past = [.ok (some other)]) : other = notifier := by
    simpa [h] using prompted.read
  have lists {other : List Provider} (h : listings past = [.ok other]) : other = listed := by
    simpa [h] using prompted.listed
  -- A pass that failed made a call after the message, and one that succeeded told all that was due
  have sent : number < (texts past).length := by
    cases outcome with
    | error failure =>
      rw [length_texts]
      exact prompted.unfailing (hfails rfl)
    | ok next =>
      cases next with
      | awaitChange =>
        rcases ends with hstage | ⟨other, listing, hstage⟩
        · rw [hstage] at told
          simpa [told.1] using prompted.read
        · rw [hstage] at told voices
          obtain rfl := reads told.1
          obtain rfl := lists told.2.1
          obtain ⟨before, hdue, htexts⟩ := voices
          rw [List.append_nil] at hdue
          rw [htexts, List.length_map, ← hdue]
          exact (List.getElem?_eq_some_iff.1 due).1
      | requeue seconds =>
        obtain ⟨-, other, hstage⟩ := ends
        rw [hstage] at told
        obtain rfl := reads told.1
        have unready : other.statusOrInitial.isReady = false := told.2.2.2.2
        rw [ready] at unready
        cases unready
  rcases voices.announced told with hnone | ⟨other, listing, before, hreads, hlists, ⟨rest, hdue⟩, htexts⟩
  · rw [hnone] at sent
    cases sent
  · obtain rfl := reads hreads
    obtain rfl := lists hlists
    rw [htexts, List.length_map] at sent
    rw [← hdue, List.getElem?_append_left sent] at due
    rw [htexts, List.getElem?_map, due, Option.map_some]

end Pass

end DynamicDns
