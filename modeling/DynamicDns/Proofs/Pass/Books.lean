import DynamicDns.Proofs.Pass.Reconciled
import DynamicDns.Proofs.Pass.Scribe

/-!
# The books of both kinds of pass

A provider pass records what became of its secret, its config map and its client, in this order; and a
condition of a client that holds already keeps what it says. A notifier pass begins with placeholders
for all that is declared, and what it records later is there already. Each has a scribe, and keeps to it
whatever it is answered.
-/

namespace DynamicDns

open Condition (types Complete Distinct Amended Settling assign ensureTypes declaredTypes)
open Condition (typeSecret typeConfigMap typeClient)
open Pass (Next Outcome Mutation holds fails)

variable {δ κ : Type} {generation : Int64} {before after : List Condition}

/-- What is recorded of a client that was built, or that could not be built. -/
def Condition.Creates (conditions : List Condition) (changes : List Condition.Change) : Prop :=
  changes = (if (Condition.find? conditions typeClient).any (·.status == Condition.statusTrue) then
      [.hold] else holds Wording.clientCreated Wording.clientCreatedMessage) ∨
    ∃ message, changes = fails Wording.clientCreated message

theorem Condition.Creates.settling {changes : List Condition.Change}
    (h : Condition.Creates before changes) : Settling (changes ++ [.observed generation]) := by
  rcases h with rfl | ⟨message, rfl⟩
  · split
    · exact Condition.settling_hold generation
    · exact Condition.settling_holds _ _ generation
  · exact Condition.settling_fails _ message generation

/-! ### Providers -/

/-- What one write of a provider pass over a generation can make of a ledger. -/
inductive Provider.Edits (generation : Int64) (before : List Condition) : List Condition → Prop where
  | aside : Edits generation before before
  | secret (now : String) (changes : List Condition.Change)
      (settling : Settling (changes ++ [.observed generation])) :
      Edits generation before (assign now typeSecret (changes ++ [.observed generation]) before).1
  | configMap (now : String) (changes : List Condition.Change)
      (settling : Settling (changes ++ [.observed generation]))
      (unlocked : typeSecret ∈ types before) :
      Edits generation before (assign now typeConfigMap (changes ++ [.observed generation]) before).1
  | client (now : String) (changes : List Condition.Change)
      (creates : Condition.Creates before changes) (equipped : typeConfigMap ∈ types before) :
      Edits generation before (assign now typeClient (changes ++ [.observed generation]) before).1

namespace Provider

theorem Edits.amended (h : Edits generation before after) : Amended generation before after := by
  cases h with
  | aside => exact Condition.Amended.refl generation before
  | secret now changes settling => exact Condition.amended_assign settling (by decide) now before
  | configMap now changes settling => exact Condition.amended_assign settling (by decide) now before
  | client now changes creates => exact Condition.amended_assign creates.settling (by decide) now before

theorem Edits.distinct (h : Edits generation before after) (distinct : Distinct before) :
    Distinct after := by
  cases h with
  | aside => exact distinct
  | secret | configMap | client => exact Condition.distinct_assign distinct _ _ _

/-- What provider passes write. They leave nothing for sure, since they can end before they write
anything. -/
def scribe (δ κ : Type) (key : ObjectKey) : Scribe δ κ ProviderSpec ProviderStatus key where
  lane := .provider key 0
  reading := (duty δ κ key).reading
  Edits := Edits
  Leaves _ := True
  injective := (duty δ κ key).injective
  truthful := by
    rintro scope cluster cluster' call reply found ⟨refusal, outside, hanswer⟩ hreading
    cases hreading
    exact (Cluster.eq_of_reading_eq_ok (congrArg Prod.fst hanswer)).symm
  amends := Edits.amended
  distinct := Edits.distinct
  leaves _ := trivial

end Provider

/-! ### Notifiers -/

inductive Notifier.Edits (generation : Int64) (before : List Condition) : List Condition → Prop where
  | declared (now : String) : Edits generation before (ensureTypes now declaredTypes before).1
  | aside (complete : Complete before) : Edits generation before before
  | recorded (now type : String) (changes : List Condition.Change) (complete : Complete before)
      (declared : type ∈ declaredTypes) (settling : Settling (changes ++ [.observed generation])) :
      Edits generation before (assign now type (changes ++ [.observed generation]) before).1

namespace Notifier

theorem Edits.amended (h : Edits generation before after) : Amended generation before after := by
  cases h with
  | declared now => exact Condition.amended_ensureTypes generation now before
  | aside => exact Condition.Amended.refl generation before
  | recorded now type changes _ declared settling =>
    exact Condition.amended_assign settling declared now before

theorem Edits.distinct (h : Edits generation before after) (distinct : Distinct before) :
    Distinct after := by
  cases h with
  | declared now => exact Condition.distinct_ensureTypes distinct now declaredTypes
  | aside => exact distinct
  | recorded => exact Condition.distinct_assign distinct _ _ _

theorem Edits.complete (h : Edits generation before after) : Complete after := by
  have extends_ := h.amended.revised.extends
  cases h with
  | declared now => exact Condition.complete_ensureTypes now before
  | aside complete => exact complete
  | recorded now type changes complete => exact extends_.complete complete

def scribe (δ κ : Type) (key : ObjectKey) : Scribe δ κ NotifierSpec NotifierStatus key where
  lane := .notifier key
  reading := (duty δ κ key).reading
  Edits := Edits
  Leaves := Complete
  injective := (duty δ κ key).injective
  truthful := by
    rintro scope cluster cluster' call reply found ⟨refusal, outside, hanswer⟩ hreading
    cases hreading
    exact (Cluster.eq_of_reading_eq_ok (congrArg Prod.fst hanswer)).symm
  amends := Edits.amended
  distinct := Edits.distinct
  leaves := Edits.complete

end Notifier

/-! ### What is recorded -/

section

variable {σ τ : Type} [Status τ] [LawfulStatus τ] (r : Resource σ τ) (now type : String)
  (changes : List Condition.Change)

theorem Resource.mem_types_recorded : type ∈ types (r.recorded now type changes).conditions := by
  rw [conditions_recorded, Condition.types_assign]
  split <;> simp [*]

theorem Resource.creates_creation : Condition.Creates r.conditions r.creation := by
  rw [creation, elim_conditions]
  exact .inl rfl

end

namespace Pass

variable {scope : Option String} {key : ObjectKey}

/-! ### Provider passes -/

section

variable {provider r : Provider} {turn : Turn δ κ} {changes : List Condition.Change}

theorem admits_secret (settling : Settling (changes ++ [.observed r.generation])) :
    (Provider.scribe δ κ key).Admits r typeSecret changes := by
  intro now
  rw [Resource.conditions_recorded]
  exact .secret now changes settling

theorem admits_configMap (settling : Settling (changes ++ [.observed r.generation]))
    (unlocked : typeSecret ∈ types r.conditions) :
    (Provider.scribe δ κ key).Admits r typeConfigMap changes := by
  intro now
  rw [Resource.conditions_recorded]
  exact .configMap now changes settling unlocked

theorem admits_client (creates : Condition.Creates r.conditions changes)
    (equipped : typeConfigMap ∈ types r.conditions) :
    (Provider.scribe δ κ key).Admits r typeClient changes := by
  intro now
  rw [Resource.conditions_recorded]
  exact .client now changes creates equipped

/-- Once its addresses are known, a pass writes no more conditions. -/
theorem keeps_put (own : provider.key = key)
    (mindful : (Provider.scribe δ κ key).Mindful provider r turn)
    {mutate : Mutation ProviderStatus} (exact : mutate.Exact)
    (same : ∀ status, (mutate status).1.conditions = status.conditions) :
    (patchStatus mutate : Pass δ κ Provider Bool).Keeps ((Provider.scribe δ κ key).rules scope)
      (fun _ r' turn' => r'.conditions = r.conditions ∧
        (Provider.scribe δ κ key).Mindful provider r' turn') r turn := by
  have hsame : (r.put (mutate r.statusOrInitial).1).conditions = r.conditions :=
    same r.statusOrInitial
  have edits : (Provider.scribe δ κ key).Edits r.generation r.conditions
      (r.put (mutate r.statusOrInitial).1).conditions := by
    rw [hsame]
    exact .aside
  apply Keeps.mono (Scribe.keeps_write own mindful exact edits)
  rintro _ r' turn' ⟨rfl, mindful'⟩
  exact ⟨hsame, mindful'⟩

theorem keeps_overProvider_of_mindful (own : provider.key = key)
    (mindful : (Provider.scribe δ κ key).Mindful provider provider turn) :
    (overProvider key : Pass δ κ Provider Next).Keeps ((Provider.scribe δ κ key).rules scope)
      (fun _ _ => (Provider.scribe δ κ key).Ends) provider turn := by
  let rules := (Provider.scribe δ κ key).rules scope
  have counts {r : Provider} {turn : Turn δ κ}
      (mindful : (Provider.scribe δ κ key).Mindful provider r turn) (event : Metrics.Event) :
      rules.allows turn (.record event) ∧
        ∀ turn', rules.answers turn (.record event) () turn' → rules.fails turn' := by
    have spares : (Call.record event : Call δ κ).Spares ProviderStatus := Call.spares trivial
    exact ⟨mindful.kept, fun turn' answer => (mindful.spares spares answer).ends trivial⟩
  refine keeps_get_bind (Scribe.keeps_ask_bind mindful (Call.spares trivial) ?_)
  intro discovered turn mindful
  refine keeps_proceedCounting_bind (fun _ _ => counts mindful _) fun ip _ => ?_
  refine Keeps.bind (keeps_put own mindful (exact_putPublicIp ip) fun _ => rfl) ?_
  rintro _ r turn ⟨-, mindful⟩
  refine Keeps.bind (keeps_get_bind (Scribe.keeps_fetch own mindful ?_ ?_ fun message => ?_)) ?_
  · exact Scribe.keeps_ask mindful (Call.spares trivial)
  · exact admits_secret (Condition.settling_holds _ _ _)
  · exact admits_secret (Condition.settling_fails _ _ _)
  rintro secret r₁ turn ⟨⟨now, changes, rfl⟩, mindful, -⟩
  have unlocked := r.mem_types_recorded now typeSecret changes
  refine Keeps.bind (keeps_get_bind (Scribe.keeps_fetch own mindful ?_ ?_ fun message => ?_)) ?_
  · exact Scribe.keeps_ask mindful (Call.spares trivial)
  · exact admits_configMap (Condition.settling_holds _ _ _) unlocked
  · exact admits_configMap (Condition.settling_fails _ _ _) unlocked
  rintro configMap r₂ turn ⟨⟨now', changes', rfl⟩, mindful, -⟩
  have equipped := (r.recorded now typeSecret changes).mem_types_recorded now' typeConfigMap changes'
  refine keeps_get_bind (Scribe.keeps_ask_bind mindful (Call.spares trivial) ?_)
  intro created turn mindful
  refine Keeps.bind (Scribe.keeps_recordCreation own mindful created ?_ fun message => ?_) ?_
  · exact admits_client (Resource.creates_creation _) equipped
  · exact admits_client (.inr ⟨message, rfl⟩) equipped
  rintro client r₃ turn ⟨-, mindful, -⟩
  refine Scribe.keeps_ask_bind mindful (Call.spares trivial) ?_
  intro reply turn mindful
  refine keeps_proceedCounting_bind (fun _ _ => counts mindful _) fun served _ => ?_
  refine Keeps.bind (keeps_put own mindful (exact_putProviderIp served) fun _ => rfl) ?_
  rintro _ r₄ turn ⟨-, mindful⟩
  have finish {r : Provider} {turn : Turn δ κ}
      (mindful : (Provider.scribe δ κ key).Mindful provider r turn) :
      (do
        let _ ← patchStatus (putProviderGeneration (some (← get).generation))
        return .requeue (← get).spec.retrySeconds : Pass δ κ Provider Next).Keeps rules
        (fun _ _ => (Provider.scribe δ κ key).Ends) r turn := by
    refine keeps_get_bind (Keeps.bind (keeps_put own mindful
      (exact_putProviderGeneration _) fun _ => rfl) ?_)
    rintro _ r' turn' ⟨-, mindful'⟩
    exact keeps_get_bind (keeps_pure (mindful'.ends trivial))
  by_cases hsame : ip = served
  · rw [if_neg fun h => h hsame]
    exact finish mindful
  · rw [if_pos hsame]
    refine Scribe.keeps_ask_bind mindful (Call.spares trivial) fun reply turn mindful => ?_
    refine keeps_proceedCounting_bind (fun _ _ => counts mindful _) fun value _ => ?_
    refine Scribe.keeps_ask_bind mindful (Call.spares trivial) fun _ turn mindful => ?_
    refine Keeps.bind (keeps_put own mindful (exact_putProviderIp ip) fun _ => rfl) ?_
    rintro _ r₅ turn ⟨-, mindful⟩
    exact finish mindful

/-- However it is answered, a provider pass keeps its books. -/
theorem provider_keeps_books (scope : Option String) (key : ObjectKey) {cluster : Cluster}
    (kept : cluster.WellKept) :
    (Pass.provider key : Calling δ κ Outcome).Obeys ((Provider.scribe δ κ key).rules scope)
      (fun _ => (Provider.scribe δ κ key).Ends) ⟨⟨cluster, []⟩, cluster⟩ := by
  have spares : (Call.getProvider key : Call δ κ).Spares ProviderStatus := Call.spares trivial
  refine ⟨.inl rfl, fun reply turn answer => ?_⟩
  rcases reply with failure | _ | provider
  · exact Scribe.ends_of_unread spares (by simp [Provider.scribe, Provider.duty]) answer
  · exact Scribe.ends_of_unread spares (by simp [Provider.scribe, Provider.duty]) answer
  · have mindful : (Provider.scribe δ κ key).Mindful provider provider turn :=
      Scribe.begins spares rfl answer
    have own : provider.key = key := by
      obtain ⟨-, cluster', answers, -⟩ := answer
      exact kept.providers.keyOf_of_get? ((Provider.scribe δ κ key).truthful answers rfl)
    exact (keeps_overProvider_of_mindful own mindful).obeys (fun _ _ _ ends => ends) fun _ _ ends => ends

end

/-! ### Notifier passes -/

section

variable {notifier r : Notifier} {turn : Turn δ κ} {type : String} {changes : List Condition.Change}

theorem admits_notifier (complete : Complete r.conditions) (declared : type ∈ declaredTypes)
    (settling : Settling (changes ++ [.observed r.generation])) :
    (Notifier.scribe δ κ key).Admits r type changes := by
  intro now
  rw [Resource.conditions_recorded]
  exact .recorded now type changes complete declared settling

structure Declaring (key : ObjectKey) (notifier r : Notifier) (turn : Turn δ κ) : Prop where
  mindful : (Notifier.scribe δ κ key).Mindful notifier r turn
  complete : Complete r.conditions

theorem Declaring.ends (declaring : Declaring key notifier r turn) :
    (Notifier.scribe δ κ key).Ends turn :=
  declaring.mindful.ends declaring.complete

theorem Declaring.of_recorded {r' : Notifier}
    (h : (Notifier.scribe δ κ key).Recorded notifier r type r' turn) :
    Declaring key notifier r' turn :=
  ⟨h.mindful, h.leaves⟩

theorem keeps_ensureDeclared_of_mindful (own : notifier.key = key)
    (mindful : (Notifier.scribe δ κ key).Mindful notifier r turn) :
    (ensureDeclared : Pass δ κ Notifier Unit).Keeps ((Notifier.scribe δ κ key).rules scope)
      (fun _ => Declaring key notifier) r turn := by
  refine Scribe.keeps_ask_bind mindful (Call.spares trivial) fun now turn mindful => ?_
  refine Keeps.bind (Scribe.keeps_write own mindful (exact_ensureTypes _ _) (.declared now)) ?_
  rintro _ r' turn' ⟨rfl, mindful'⟩
  exact keeps_pure ⟨mindful', Condition.complete_ensureTypes now r.conditions⟩

theorem keeps_recordNotifier (own : notifier.key = key) (declaring : Declaring key notifier r turn)
    (declared : type ∈ declaredTypes) (settling : Settling (changes ++ [.observed r.generation])) :
    (recordCondition type changes : Pass δ κ Notifier Unit).Keeps
      ((Notifier.scribe δ κ key).rules scope) (fun _ => Declaring key notifier) r turn := by
  apply Keeps.mono (Scribe.keeps_recordCondition own declaring.mindful
    (admits_notifier declaring.complete declared settling))
  exact fun _ _ _ => Declaring.of_recorded

theorem keeps_condition (own : notifier.key = key) (declaring : Declaring key notifier r turn)
    (now : String) {mutate : Mutation NotifierStatus} (exact : mutate.Exact)
    (declared : type ∈ declaredTypes) (settling : Settling (changes ++ [.observed r.generation]))
    (hmutate : (mutate r.statusOrInitial).1.conditions =
      (assign now type (changes ++ [.observed r.generation]) r.conditions).1) :
    (patchStatus mutate : Pass δ κ Notifier Bool).Keeps ((Notifier.scribe δ κ key).rules scope)
      (fun _ => Declaring key notifier) r turn := by
  have edits : (Notifier.scribe δ κ key).Edits r.generation r.conditions
      (r.put (mutate r.statusOrInitial).1).conditions := by
    have hconditions : (r.put (mutate r.statusOrInitial).1).conditions = _ := hmutate
    rw [hconditions]
    exact .recorded now type changes declaring.complete declared settling
  apply Keeps.mono (Scribe.keeps_write own declaring.mindful exact edits)
  rintro _ r' turn' ⟨rfl, mindful'⟩
  exact ⟨mindful', (Notifier.scribe δ κ key).leaves edits⟩

theorem keeps_fetchNotifier {α : Type} {kind reason name : String}
    {read : (key : ObjectKey) → Pass δ κ Notifier (Except LookupError α)}
    (own : notifier.key = key) (declaring : Declaring key notifier r turn)
    (reads : (read ⟨r.metadata.space, name⟩).Keeps ((Notifier.scribe δ κ key).rules scope)
      (fun _ r' turn' => r' = r ∧ (Notifier.scribe δ κ key).Mindful notifier r turn') r turn)
    (declared : type ∈ declaredTypes) :
    (fetch kind type reason name read).Keeps ((Notifier.scribe δ κ key).rules scope)
      (fun _ => Declaring key notifier) r turn := by
  apply Keeps.mono (Scribe.keeps_fetch own declaring.mindful reads
    (admits_notifier declaring.complete declared (Condition.settling_holds _ _ _)) fun message =>
      admits_notifier declaring.complete declared (Condition.settling_fails _ _ _))
  exact fun _ _ _ => Declaring.of_recorded

theorem keeps_greet_of_declaring (own : notifier.key = key) {channel : κ}
    (declaring : Declaring key notifier r turn) :
    (greet channel : Pass δ κ Notifier Unit).Keeps ((Notifier.scribe δ κ key).rules scope)
      (fun _ => Declaring key notifier) r turn := by
  have complete := declaring.complete
  refine Scribe.keeps_ask_bind declaring.mindful (Call.spares trivial) fun reply turn mindful => ?_
  refine Scribe.keeps_ask_bind mindful (Call.spares trivial) fun _ turn mindful => ?_
  cases reply with
  | ok value =>
    dsimp only
    rw [stamped_bind]
    refine Scribe.keeps_ask_bind mindful (Call.spares trivial) fun now turn mindful => ?_
    refine keeps_get_bind (Keeps.bind (keeps_condition own ⟨mindful, complete⟩ now
      ((exact_assign _ _ _).andAlso (exact_putReady true)) (by decide)
      (Condition.settling_holds _ _ _) rfl) ?_)
    exact fun _ _ _ declaring => keeps_pure declaring
  | error e =>
    refine Keeps.bind (keeps_recordNotifier own ⟨mindful, complete⟩ (by decide)
      (Condition.settling_fails _ _ _)) fun _ r' turn' declaring => ?_
    exact keeps_proceed_error declaring.ends

theorem keeps_announce_of_declaring (own : notifier.key = key) {channel : κ} {marker : Marker}
    {provider : Provider} {ip : String} (declaring : Declaring key notifier r turn) :
    (announce channel marker provider ip : Pass δ κ Notifier Unit).Keeps
      ((Notifier.scribe δ κ key).rules scope) (fun _ => Declaring key notifier) r turn := by
  have complete := declaring.complete
  refine Scribe.keeps_ask_bind declaring.mindful (Call.spares trivial) fun reply turn mindful => ?_
  refine Scribe.keeps_ask_bind mindful (Call.spares trivial) fun _ turn mindful => ?_
  cases reply with
  | ok value =>
    refine Keeps.bind (keeps_recordNotifier own ⟨mindful, complete⟩ (by decide)
      (Condition.settling_holds _ _ _)) fun _ r turn declaring => ?_
    refine Scribe.keeps_ask_bind declaring.mindful (Call.spares_patchProvider _ _) ?_
    intro reply turn mindful
    cases reply with
    | ok value => exact keeps_pure ⟨mindful, declaring.complete⟩
    | error failure => exact keeps_throw _ (mindful.ends declaring.complete)
  | error e =>
    dsimp only
    rw [stamped_bind]
    refine Scribe.keeps_ask_bind mindful (Call.spares trivial) fun now turn mindful => ?_
    refine keeps_get_bind (Keeps.bind (keeps_condition own ⟨mindful, complete⟩ now
      ((exact_putReady false).andAlso (exact_assign _ _ _)) (by decide)
      (Condition.settling_fails _ _ _) rfl) ?_)
    intro _ r' turn' declaring
    exact keeps_proceed_error declaring.ends

theorem keeps_announceAll_of_declaring (own : notifier.key = key) {channel : κ} {marker : Marker}
    (providers : List Provider) (declaring : Declaring key notifier r turn) :
    (announceAll channel marker providers : Pass δ κ Notifier Unit).Keeps
      ((Notifier.scribe δ κ key).rules scope) (fun _ => Declaring key notifier) r turn := by
  induction providers generalizing r turn with
  | nil => exact keeps_pure declaring
  | cons provider rest ih =>
    rw [announceAll]
    cases pending? marker provider with
    | none => exact ih declaring
    | some ip =>
      exact Keeps.bind (keeps_announce_of_declaring own declaring) fun _ _ _ declaring => ih declaring

theorem keeps_overNotifier_of_mindful (own : notifier.key = key)
    (mindful : (Notifier.scribe δ κ key).Mindful notifier notifier turn) :
    (overNotifier key : Pass δ κ Notifier Next).Keeps ((Notifier.scribe δ κ key).rules scope)
      (fun _ _ => (Notifier.scribe δ κ key).Ends) notifier turn := by
  refine Keeps.bind (keeps_ensureDeclared_of_mindful own mindful) fun _ r turn declaring => ?_
  refine Keeps.bind (keeps_get_bind (keeps_fetchNotifier own declaring ?_ (by decide))) ?_
  · exact Scribe.keeps_ask declaring.mindful (Call.spares trivial)
  intro secret r turn declaring
  refine Keeps.bind (keeps_get_bind (keeps_fetchNotifier own declaring ?_ (by decide))) ?_
  · exact Scribe.keeps_ask declaring.mindful (Call.spares trivial)
  intro configMap r turn declaring
  have complete := declaring.complete
  refine keeps_get_bind (Scribe.keeps_ask_bind declaring.mindful (Call.spares trivial) ?_)
  intro created turn mindful
  refine Keeps.bind (Scribe.keeps_recordCreation own mindful created ?_ fun message => ?_) ?_
  · exact admits_notifier complete (by decide) (Resource.settling_creation r)
  · exact admits_notifier complete (by decide) (Condition.settling_fails _ _ _)
  intro channel r turn recorded
  have declaring := Declaring.of_recorded recorded
  refine keeps_get_bind ?_
  cases r.statusOrInitial.isReady with
  | false =>
    exact Keeps.bind (keeps_greet_of_declaring own declaring) fun _ _ _ declaring =>
      keeps_pure declaring.ends
  | true =>
    refine keeps_get_bind (Scribe.keeps_ask_bind declaring.mindful (Call.spares trivial) ?_)
    intro reply turn mindful
    cases reply with
    | error failure => exact keeps_throw_bind failure (mindful.ends declaring.complete)
    | ok listed =>
      refine Keeps.bind (keeps_announceAll_of_declaring own _ ⟨mindful, declaring.complete⟩) ?_
      intro _ r turn declaring
      refine keeps_get_bind (Keeps.bind (Scribe.keeps_write own declaring.mindful
        (exact_putNotifierGeneration _) (.aside declaring.complete)) ?_)
      rintro _ r' turn' ⟨rfl, mindful'⟩
      exact keeps_pure (mindful'.ends declaring.complete)

/-- However it is answered, a notifier pass keeps its books. -/
theorem notifier_keeps_books (scope : Option String) (key : ObjectKey) {cluster : Cluster}
    (kept : cluster.WellKept) :
    (Pass.notifier key : Calling δ κ Outcome).Obeys ((Notifier.scribe δ κ key).rules scope)
      (fun _ => (Notifier.scribe δ κ key).Ends) ⟨⟨cluster, []⟩, cluster⟩ := by
  have spares : (Call.getNotifier key : Call δ κ).Spares NotifierStatus := Call.spares trivial
  refine ⟨.inl rfl, fun reply turn answer => ?_⟩
  rcases reply with failure | _ | notifier
  · exact Scribe.ends_of_unread spares (by simp [Notifier.scribe, Notifier.duty]) answer
  · exact Scribe.ends_of_unread spares (by simp [Notifier.scribe, Notifier.duty]) answer
  · have mindful : (Notifier.scribe δ κ key).Mindful notifier notifier turn :=
      Scribe.begins spares rfl answer
    have own : notifier.key = key := by
      obtain ⟨-, cluster', answers, -⟩ := answer
      exact kept.notifiers.keyOf_of_get? ((Notifier.scribe δ κ key).truthful answers rfl)
    exact (keeps_overNotifier_of_mindful own mindful).obeys (fun _ _ _ ends => ends) fun _ _ ends => ends

end

end Pass

end DynamicDns
