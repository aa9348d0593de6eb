import DynamicDns.Proofs.Metrics.Count
import DynamicDns.Proofs.Pass.Accounting
import DynamicDns.Proofs.Run.Scene
import Mathlib.Algebra.BigOperators.Group.List.Basic
import Mathlib.Algebra.GroupWithZero.Nat

/-!
# The metrics of many passes

An operator counts all its passes in one registry, and any number of them may be going on at once,
over the same object or over different ones, each call answered in any way. When all passes have
returned, the registry says how many of them succeeded and failed, and how many of the calls that
they made went well and did not (`Traffic.metrics_account`). Each pass has counted its own calls and
then itself, so what is left is to add up over passes, however their calls came in between.
-/

namespace DynamicDns

open Metrics (Registry Counter)
open Pass (Outcome)

variable {δ κ : Type}

/-- A counted pass over an object that is going on: what it has done, the latest first, and what it
is still to do. -/
structure Job (δ κ : Type) where
  kind : Kind
  key : ObjectKey
  past : List (Answered δ κ)
  rest : Calling δ κ Outcome

structure Returned (δ κ : Type) where
  kind : Kind
  key : ObjectKey
  past : List (Answered δ κ)
  outcome : Outcome

def Returned.acts (pass : Returned δ κ) (act : Act) (succeeded : Bool) : Nat :=
  pass.past.countP fun answered => answered.call.act? = some act && answered.succeeded == succeeded

structure Traffic (δ κ : Type) where
  registry : Registry
  ongoing : List (Job δ κ)
  returned : List (Returned δ κ)

namespace Traffic

/-- A pass is started, or one of those that are going on is taken one call further. -/
inductive Move (δ κ : Type) where
  | start (kind : Kind) (key : ObjectKey)
  | advance (number : Nat) (answer : (call : Call δ κ) → call.Reply)

def opening : Traffic δ κ := ⟨Registry.empty, [], []⟩

def advance (number : Nat) (answer : (call : Call δ κ) → call.Reply) (traffic : Traffic δ κ) :
    Traffic δ κ :=
  match traffic.ongoing[number]? with
  | none => traffic
  | some ⟨kind, key, past, .done outcome⟩ =>
    { traffic with
      ongoing := traffic.ongoing.eraseIdx number
      returned := ⟨kind, key, past, outcome⟩ :: traffic.returned }
  | some ⟨kind, key, past, .call call next⟩ =>
    { traffic with
      registry := (Answered.counted ⟨call, answer call⟩).foldl Registry.record traffic.registry
      ongoing := traffic.ongoing.set number
        ⟨kind, key, ⟨call, answer call⟩ :: past, next (answer call)⟩ }

def step (traffic : Traffic δ κ) : Move δ κ → Traffic δ κ
  | .start kind key =>
    { traffic with ongoing := ⟨kind, key, [], Pass.counted kind (kind.pass key)⟩ :: traffic.ongoing }
  | .advance number answer => traffic.advance number answer

def play (moves : List (Move δ κ)) : Traffic δ κ := moves.foldl step opening

/-- The metrics are what happened. -/
structure Accounted (traffic : Traffic δ κ) : Prop where
  passes : ∀ (kind : Kind) (success : Bool),
    traffic.registry.count .passes [kind.name, if success then "success" else "error"] =
      traffic.returned.countP fun pass => pass.kind = kind && pass.outcome.isOk == success
  durations : ∀ kind : Kind, traffic.registry.durationCount kind.name =
    traffic.registry.count .passes [kind.name, "success"] +
      traffic.registry.count .passes [kind.name, "error"]
  failures : ∀ kind : Kind, traffic.registry.count .errors [kind.name, "reconcile_error"] =
    traffic.registry.count .passes [kind.name, "error"]
  discoveries : traffic.registry.count .errors ["Provider", "ip_discovery"] =
    (traffic.returned.map (·.acts .publicIp false)).sum
  clients : traffic.registry.count .errors ["Provider", "dns_provider"] =
    (traffic.returned.map fun pass => pass.acts .getIp false + pass.acts .setIp false).sum
  pushes : ∀ key : ObjectKey, '/' ∉ key.ns.toList → '/' ∉ key.name.toList →
    traffic.registry.count .addressUpdates [key.path] =
      ((traffic.returned.filter fun pass => pass.key = key).map (·.acts .setIp true)).sum
  greetings : ∀ delivered : Bool,
    traffic.registry.count .notifications ["greeting", if delivered then "sent" else "failed"] =
      (traffic.returned.map (·.acts .greet delivered)).sum
  notices : ∀ delivered : Bool,
    traffic.registry.count .notifications ["change", if delivered then "sent" else "failed"] =
      (traffic.returned.map (·.acts .notify delivered)).sum

/-! ### What the registry says at any time -/

def counts (traffic : Traffic δ κ) : List Metrics.Event :=
  (traffic.ongoing.flatMap fun job => Pass.counts job.past) ++
    traffic.returned.flatMap fun pass => Pass.counts pass.past

/-- A measure of the registry that goes up by one with each event of a class. -/
structure Tallies (measure : Registry → Nat) (p : Metrics.Event → Bool) : Prop where
  empty : measure Registry.empty = 0
  record : ∀ registry event,
    measure (registry.record event) = measure registry + if p event then 1 else 0

theorem tallies_count (counter : Counter) (values : List String) :
    Tallies (·.count counter values) (·.isFor counter values) :=
  ⟨rfl, fun registry event => registry.count_record event counter values⟩

theorem tallies_durationCount (kind : String) : Tallies (·.durationCount kind) (·.isTimed kind) :=
  ⟨rfl, fun registry event => registry.durationCount_record event kind⟩

def Returned.Accounts (pass : Returned δ κ) : Prop :=
  ∃ duration, Pass.counts pass.past =
    Pass.conclusion pass.kind pass.outcome duration ++ Pass.dues pass.key pass.past

/-- The registry holds what was counted, and each pass accounts for what it does. -/
structure Kept (traffic : Traffic δ κ) : Prop where
  registry : ∀ measure p, Tallies measure p → measure traffic.registry = traffic.counts.countP p
  ongoing : ∀ job ∈ traffic.ongoing, job.rest.Obeys (Pass.Accounting.rules δ κ job.key)
    (fun outcome past => Returned.Accounts ⟨job.kind, job.key, past, outcome⟩) job.past
  returned : ∀ pass ∈ traffic.returned, Returned.Accounts pass

/-! ### Each move keeps the accounts -/

variable {measure : Registry → Nat} {p : Metrics.Event → Bool} {traffic : Traffic δ κ}

theorem Tallies.foldl (tallies : Tallies measure p) (events : List Metrics.Event)
    (registry : Registry) :
    measure (events.foldl Registry.record registry) = measure registry + events.countP p := by
  induction events generalizing registry with
  | nil => rfl
  | cons event rest ih =>
    rw [List.foldl_cons, ih, tallies.record, List.countP_cons]
    omega

theorem exists_split {α : Type} {l : List α} {number : Nat} {x : α} (h : l[number]? = some x) :
    ∃ before after, l = before ++ x :: after ∧ number = before.length := by
  obtain ⟨hlt, rfl⟩ := List.getElem?_eq_some_iff.1 h
  refine ⟨l.take number, l.drop (number + 1), ?_, ?_⟩
  · rw [List.getElem_cons_drop, List.take_append_drop]
  · rw [List.length_take_of_le hlt.le]

theorem obeys_counted (kind : Kind) (key : ObjectKey) :
    (Pass.counted kind (kind.pass key) : Calling δ κ Outcome).Obeys (Pass.Accounting.rules δ κ key)
      (fun outcome past => Returned.Accounts ⟨kind, key, past, outcome⟩) [] := by
  apply Pass.counted_accounts
  intro past balanced
  cases kind with
  | provider => exact Pass.Accounting.provider_balances balanced
  | notifier => exact Pass.Accounting.notifier_balances balanced

theorem Kept.start (kept : traffic.Kept) (kind : Kind) (key : ObjectKey) :
    (traffic.step (.start kind key)).Kept := by
  refine ⟨kept.registry, fun job hjob => ?_, kept.returned⟩
  rcases List.mem_cons.1 hjob with rfl | hjob
  · exact obeys_counted kind key
  · exact kept.ongoing job hjob

theorem Kept.advance (kept : traffic.Kept) (number : Nat)
    (answer : (call : Call δ κ) → call.Reply) : (traffic.advance number answer).Kept := by
  obtain ⟨registry, ongoing, returned⟩ := traffic
  rw [Traffic.advance]
  cases hjob : ongoing[number]? with
  | none => exact kept
  | some job =>
    obtain ⟨before, after, rfl, rfl⟩ := exists_split hjob
    obtain ⟨kind, key, past, rest⟩ := job
    have hobeys := kept.ongoing ⟨kind, key, past, rest⟩ (by simp)
    cases rest with
    | done outcome =>
      have herase : (before ++ ⟨kind, key, past, .done outcome⟩ :: after).eraseIdx before.length =
          before ++ after := by
        rw [List.eraseIdx_append_of_length_le le_rfl]
        simp
      dsimp only
      rw [herase]
      refine ⟨fun measure p tallies => ?_, fun other hother => kept.ongoing other ?_, ?_⟩
      · have hmeasure := kept.registry measure p tallies
        simp only [counts, List.flatMap_append, List.flatMap_cons, List.countP_append] at hmeasure ⊢
        omega
      · simp only [List.mem_append, List.mem_cons] at hother ⊢
        tauto
      · intro pass hpass
        rcases List.mem_cons.1 hpass with rfl | hpass
        · exact hobeys
        · exact kept.returned pass hpass
    | call call next =>
      have hset (other : Job δ κ) :
          (before ++ ⟨kind, key, past, .call call next⟩ :: after).set before.length other =
            before ++ other :: after := by
        rw [List.set_append_right _ _ le_rfl]
        simp
      dsimp only
      rw [hset]
      refine ⟨fun measure p tallies => ?_, fun other hother => ?_, kept.returned⟩
      · have hmeasure := kept.registry measure p tallies
        simp only [counts, List.flatMap_append, List.flatMap_cons, Pass.counts, List.countP_append,
          tallies.foldl] at hmeasure ⊢
        omega
      · by_cases hsame : other = ⟨kind, key, ⟨call, answer call⟩ :: past, next (answer call)⟩
        · subst hsame
          exact hobeys.2 _ _ rfl
        · apply kept.ongoing other
          simp only [List.mem_append, List.mem_cons] at hother ⊢
          tauto

theorem kept_play (moves : List (Move δ κ)) : (play moves).Kept := by
  have hopening : (opening : Traffic δ κ).Kept := by
    refine ⟨fun _ _ tallies => tallies.empty, ?_, ?_⟩
    all_goals
      intro _ absurd
      cases absurd
  rw [play]
  generalize (opening : Traffic δ κ) = traffic at hopening ⊢
  induction moves generalizing traffic with
  | nil => exact hopening
  | cons move rest ih =>
    cases move with
    | start kind key => exact ih _ (hopening.start kind key)
    | advance number answer => exact ih _ (hopening.advance number answer)

/-! ### What is left when all passes have returned -/

/-- What a pass counted of a class of events: itself, and calls of an act that went as given. -/
theorem Kept.sum (kept : traffic.Kept) (idle : traffic.ongoing = []) (tallies : Tallies measure p)
    {f : Returned δ κ → Nat}
    (adds : ∀ pass duration, (Pass.conclusion pass.kind pass.outcome duration).countP p +
      (Pass.dues pass.key pass.past).countP p = f pass) :
    measure traffic.registry = (traffic.returned.map f).sum := by
  rw [kept.registry measure p tallies, counts, idle, List.flatMap_nil, List.nil_append,
    List.countP_flatMap]
  congr 1
  apply List.map_congr_left
  intro pass hpass
  obtain ⟨duration, haccounts⟩ := kept.returned pass hpass
  rw [Function.comp_apply, haccounts, List.countP_append]
  exact adds pass duration

theorem countP_dues {key : ObjectKey} {past : List (Answered δ κ)} {q : Act → Bool → Bool}
    (h : ∀ act succeeded, (Act.due key act succeeded).countP p = if q act succeeded then 1 else 0) :
    (Pass.dues key past).countP p =
      past.countP fun answered => answered.call.act?.any fun act => q act answered.succeeded := by
  induction past with
  | nil => rfl
  | cons answered rest ih =>
    have hdue : (answered.due key).countP p =
        if answered.call.act?.any fun act => q act answered.succeeded then 1 else 0 := by
      rw [Answered.due]
      cases answered.call.act? with
      | none => rfl
      | some act => exact h act answered.succeeded
    rw [Pass.dues, List.flatMap_cons, List.countP_append, hdue, List.countP_cons, ← ih, Pass.dues]
    omega

theorem countP_eq_sum {α : Type} (l : List α) (q : α → Bool) :
    l.countP q = (l.map fun x => if q x then 1 else 0).sum := by
  rw [List.sum_map_ite, List.countP_eq_length_filter]
  simp

theorem countP_add {α : Type} (l : List α) {q first second : α → Bool}
    (h : ∀ x, q x = (first x || second x)) (apart : ∀ x, (first x && second x) = false) :
    l.countP q = l.countP first + l.countP second := by
  induction l with
  | nil => rfl
  | cons x rest ih =>
    have hnever := apart x
    simp only [List.countP_cons, ih, h x]
    cases hfirst : first x <;> cases hsecond : second x <;> simp_all <;> omega

theorem path_injective {key other : ObjectKey} (hns : '/' ∉ key.ns.toList)
    (hname : '/' ∉ key.name.toList) (h : other.path = key.path) : other = key := by
  have hlists : key.ns.toList ++ '/' :: key.name.toList = other.ns.toList ++ '/' :: other.name.toList := by
    simpa [ObjectKey.path] using congrArg String.toList h.symm
  obtain ⟨hns', -, hname'⟩ := (List.append_cons_inj_of_notMem hns hname).1 hlists
  cases key
  cases other
  simp_all [String.toList_inj]

variable {counter : Counter} {values : List String}

theorem any_act (act? : Option Act) (act : Act) {succeeded : Bool} :
    (act?.any fun act' => act' = act && succeeded) = (act? = some act && succeeded) := by
  cases act? <;> simp

/-- A counter that only calls of one act add to. -/
theorem Kept.count_acts (kept : traffic.Kept) (idle : traffic.ongoing = []) {act : Act}
    {succeeded : Bool}
    (itself : ∀ kind outcome duration,
      (Pass.conclusion kind outcome duration).countP (·.isFor counter values) = 0)
    (calls : ∀ key act' succeeded', (Act.due key act' succeeded').countP (·.isFor counter values) =
      if act' = act && succeeded' == succeeded then 1 else 0) :
    traffic.registry.count counter values = (traffic.returned.map (·.acts act succeeded)).sum := by
  apply kept.sum idle (tallies_count counter values)
  intro pass duration
  rw [itself, countP_dues (calls pass.key), Nat.zero_add]
  exact congrArg (List.countP · pass.past) (funext fun answered => any_act _ _)

/-- A measure that passes add to when they return, but none of their calls. -/
theorem Kept.count_passes (kept : traffic.Kept) (idle : traffic.ongoing = [])
    (tallies : Tallies measure p) {q : Returned δ κ → Bool}
    (itself : ∀ pass duration,
      (Pass.conclusion pass.kind pass.outcome duration).countP p = if q pass then 1 else 0)
    (calls : ∀ key act succeeded, (Act.due key act succeeded).countP p = 0) :
    measure traffic.registry = traffic.returned.countP q := by
  rw [countP_eq_sum]
  apply kept.sum idle tallies
  intro pass duration
  have hdues : (Pass.dues pass.key pass.past).countP p = _ :=
    countP_dues (q := fun _ _ => false) (calls pass.key)
  rw [itself, hdues]
  simp

theorem Kept.count_pushes (kept : traffic.Kept) (idle : traffic.ongoing = []) {key : ObjectKey}
    (hns : '/' ∉ key.ns.toList) (hname : '/' ∉ key.name.toList) :
    traffic.registry.count .addressUpdates [key.path] =
      ((traffic.returned.filter fun pass => pass.key = key).map (·.acts .setIp true)).sum := by
  have hsum : ((traffic.returned.filter fun pass => pass.key = key).map (·.acts .setIp true)).sum =
      (traffic.returned.map fun pass => if pass.key = key then pass.acts .setIp true else 0).sum := by
    rw [List.sum_map_ite]
    simp
  rw [hsum]
  apply kept.sum idle (tallies_count _ _)
  intro pass duration
  have hitself : (Pass.conclusion pass.kind pass.outcome duration).countP
      (·.isFor .addressUpdates [key.path]) = 0 := by
    cases pass.outcome <;> rfl
  have hpath : (pass.key.path == key.path) = decide (pass.key = key) := by
    by_cases hkey : pass.key = key
    · simp [hkey]
    · simpa [hkey] using fun h => hkey (path_injective hns hname h)
  have hdue (act : Act) (succeeded : Bool) :
      (act.due pass.key succeeded).countP (·.isFor .addressUpdates [key.path]) =
        if pass.key = key && (act = .setIp && succeeded == true) then 1 else 0 := by
    cases act <;> cases succeeded <;>
      simp [Act.due, hpath, Metrics.Event.isFor, Metrics.Event.series]
  rw [hitself, countP_dues hdue, Nat.zero_add]
  by_cases hkey : pass.key = key
  · simp only [hkey, decide_true, Bool.true_and, if_true, Returned.acts]
    exact congrArg (List.countP · pass.past) (funext fun answered => any_act _ _)
  · simp [hkey]

theorem Kept.count_clients (kept : traffic.Kept) (idle : traffic.ongoing = []) :
    traffic.registry.count .errors ["Provider", "dns_provider"] =
      (traffic.returned.map fun pass => pass.acts .getIp false + pass.acts .setIp false).sum := by
  apply kept.sum idle (tallies_count _ _)
  intro pass duration
  have hitself : (Pass.conclusion pass.kind pass.outcome duration).countP
      (·.isFor .errors ["Provider", "dns_provider"]) = 0 := by
    cases pass.kind <;> cases pass.outcome <;> rfl
  have hdue (act : Act) (succeeded : Bool) :
      (act.due pass.key succeeded).countP (·.isFor .errors ["Provider", "dns_provider"]) =
        if (act = .getIp && succeeded == false) || (act = .setIp && succeeded == false) then 1 else 0 := by
    cases act <;> cases succeeded <;> rfl
  rw [hitself, countP_dues hdue, Nat.zero_add]
  apply countP_add
  · intro answered
    simp only [← any_act]
    cases answered.call.act? <;> rfl
  · intro answered
    cases answered.call.act? with
    | none => rfl
    | some act => cases act <;> simp

/-- When all passes have returned, the metrics are what happened. -/
theorem metrics_account (moves : List (Move δ κ)) (idle : (play moves).ongoing = []) :
    (play moves).Accounted := by
  have kept := kept_play moves
  have hpasses (kind : Kind) (success : Bool) :
      (play moves).registry.count .passes [kind.name, if success then "success" else "error"] =
        (play moves).returned.countP fun pass =>
          pass.kind = kind && pass.outcome.isOk == success := by
    apply kept.count_passes idle (tallies_count _ _)
    · rintro ⟨kind', key, past, outcome⟩ duration
      cases kind <;> cases kind' <;> cases success <;> cases outcome <;> rfl
    · intro key act succeeded
      cases act <;> cases succeeded <;> rfl
  refine ⟨hpasses, fun kind => ?_, fun kind => ?_, ?_, ?_, fun key => kept.count_pushes idle,
    fun delivered => ?_, fun delivered => ?_⟩
  · have htimed : (play moves).registry.durationCount kind.name =
        (play moves).returned.countP fun pass => pass.kind = kind := by
      apply kept.count_passes idle (tallies_durationCount _)
      · rintro ⟨kind', key, past, outcome⟩ duration
        cases kind <;> cases kind' <;> cases outcome <;> rfl
      · intro key act succeeded
        cases act <;> cases succeeded <;> rfl
    have hsplit : ((play moves).returned.countP fun pass => pass.kind = kind) =
        ((play moves).returned.countP fun pass => pass.kind = kind && pass.outcome.isOk == true) +
          (play moves).returned.countP fun pass => pass.kind = kind && pass.outcome.isOk == false := by
      apply countP_add <;> intro pass <;> cases pass.outcome.isOk <;> simp
    calc (play moves).registry.durationCount kind.name
      _ = _ := htimed
      _ = _ := hsplit
      _ = _ := (congrArg₂ (· + ·) (hpasses kind true) (hpasses kind false)).symm
  · refine Eq.trans ?_ (hpasses kind false).symm
    apply kept.count_passes idle (tallies_count _ _)
    · rintro ⟨kind', key, past, outcome⟩ duration
      cases kind <;> cases kind' <;> cases outcome <;> rfl
    · intro key act succeeded
      cases kind <;> cases act <;> cases succeeded <;> rfl
  · apply kept.count_acts idle
    · intro kind outcome duration
      cases kind <;> cases outcome <;> rfl
    · intro key act succeeded
      cases act <;> cases succeeded <;> rfl
  · exact kept.count_clients idle
  · apply kept.count_acts idle
    · intro kind outcome duration
      cases outcome <;> rfl
    · intro key act succeeded
      cases act <;> cases succeeded <;> cases delivered <;> rfl
  · apply kept.count_acts idle
    · intro kind outcome duration
      cases outcome <;> rfl
    · intro key act succeeded
      cases act <;> cases succeeded <;> cases delivered <;> rfl

def sideBySide : List (Move Unit Unit) :=
  let answer : (call : Call Unit Unit) → call.Reply
    | .getIp _ => .ok "192.0.2.1"
    | call => Home.outside "192.0.2.7" [.greet] call
  [.start .provider (Home.key "zone"), .start .notifier (Home.key "hook")] ++
    (List.replicate 20 [.advance 0 answer, .advance 1 answer]).flatten ++
    List.replicate 20 (.advance 0 answer)

theorem metrics_account_of_sideBySide : (play sideBySide).ongoing = [] ∧
    (play sideBySide).returned.map (·.outcome.isOk) = [true, false] ∧
    (play sideBySide).Accounted := by
  have idle : (play sideBySide).ongoing = [] := List.length_eq_zero_iff.1 (by decide +kernel)
  exact ⟨idle, by decide +kernel, metrics_account sideBySide idle⟩

end Traffic

end DynamicDns
