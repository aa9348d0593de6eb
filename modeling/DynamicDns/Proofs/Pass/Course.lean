import DynamicDns.Proofs.Pass.History
import DynamicDns.Proofs.Pass.Phase
import DynamicDns.World.Basic
import Mathlib.Data.List.Basic
import Mathlib.Data.List.TakeWhile

/-!
# The course of a provider pass

The calls of a pass are kept here in the order in which they are made. Those that are errands, which
is all but the writing of statuses and the calls to clocks and counters, are made in one order
(`itinerary`). What the course of a pass says about its errands is read off the list of errands, and
what it says about its failures off the first call that failed and what came after it. At each phase
the calls so far say which addresses were discovered, found to be served and pushed (`Phase.Tells`).
-/

namespace DynamicDns

variable {δ κ : Type}

/-- What a call is about, unless it is to a clock or a counter or writes a status. -/
def Call.errand? : Call δ κ → Option Act
  | .patchStatus _ _ _ => none
  | call => call.act?

namespace Answered

def discovered? : Answered δ κ → Option String
  | ⟨.publicIp _, .ok ip⟩ => some ip
  | _ => none

def served? : Answered δ κ → Option String
  | ⟨.getIp _, .ok ip⟩ => some ip
  | _ => none

def pushed? : Answered δ κ → Option String
  | ⟨.setIp _ ip, _⟩ => some ip
  | _ => none

/-- What is to be recorded of a lookup or a construction that failed: a condition, its reason and its
message. -/
def verdict? : Answered δ κ → Option (String × String × String)
  | ⟨.getSecret _, .error e⟩ => some (Condition.typeSecret, Wording.secretFound, e.text)
  | ⟨.getConfigMap _, .error e⟩ => some (Condition.typeConfigMap, Wording.configMapFound, e.text)
  | ⟨.createClient _ _ _, .error e⟩ =>
    some (Condition.typeClient, Wording.clientCreated, Wording.creationFailed e.text)
  | _ => none

def PatchesStatus (key : ObjectKey) (answered : Answered δ κ) : Prop :=
  ∃ patch, answered.call = .patchStatus .provider key patch

end Answered

namespace Pass

def itinerary : List Act :=
  [.getProvider, .publicIp, .getSecret, .getConfigMap, .createClient, .getIp, .setIp]

/-- The calls of a pass over the provider with a key that ended well or failed: its errands in order,
and what it did when. -/
structure StopsAtFailure (key : ObjectKey) (succeeds : Bool) (calls : List (Answered δ κ)) :
    Prop where
  ordered : calls.filterMap (·.call.errand?) <+: itinerary
  writes : ∀ answered ∈ calls, answered.call.errand? = none → answered.call.act? = none ∨
    answered.PatchesStatus key
  pushes : (∃ answered ∈ calls, answered.pushed?.isSome = true) ↔
    (∀ answered ∈ calls.takeWhile (·.pushed?.isNone), answered.succeeded = true) ∧
      ∃ ip ∈ calls.filterMap Answered.discovered?,
        ∃ served ∈ calls.filterMap Answered.served?, served ≠ ip
  pushed : ∀ ip ∈ calls.filterMap Answered.pushed?, ip ∈ calls.filterMap Answered.discovered?
  succeeds_iff : succeeds = true ↔ ∀ answered ∈ calls, answered.succeeded = true
  stops : ∀ failed later, calls.dropWhile Answered.succeeded = failed :: later →
    (∀ answered ∈ later, answered.call.act? = none ∨
      failed.verdict?.isSome = true ∧ answered.PatchesStatus key) ∧
    (later.filter (·.call.act?.isSome)).length ≤ 1

variable {key : ObjectKey} {errands earlier calls later : List (Answered δ κ)}

/-! ### What errands say -/

/-- Errands that a pass can have run: in order, and pushing only an address that it discovered, where
another one was served. -/
structure Planned (errands : List (Answered δ κ)) : Prop where
  ordered : errands.filterMap (·.call.errand?) <+: itinerary
  pushes : (∃ answered ∈ errands, answered.pushed?.isSome = true) →
    ∃ ip ∈ errands.filterMap Answered.discovered?,
      ∃ served ∈ errands.filterMap Answered.served?, served ≠ ip
  pushed : ∀ ip ∈ errands.filterMap Answered.pushed?, ip ∈ errands.filterMap Answered.discovered?

theorem planned_of_unpushed (ordered : errands.filterMap (·.call.errand?) <+: itinerary)
    (unpushed : errands.filterMap Answered.pushed? = []) : Planned errands := by
  refine ⟨ordered, fun ⟨answered, hanswered, hpush⟩ => ?_, fun ip hip => ?_⟩
  · have hnone := List.filterMap_eq_nil_iff.1 unpushed answered hanswered
    rw [hnone] at hpush
    cases hpush
  · rw [unpushed] at hip
    exact absurd hip List.not_mem_nil

theorem filterMap_eq_of_errands {β : Type} {f : Answered δ κ → Option β}
    (h : ∀ answered, answered.call.errand? = none → f answered = none) :
    calls.filterMap f = (calls.filter (·.call.errand?.isSome)).filterMap f := by
  rw [List.filterMap_filter]
  refine List.filterMap_congr fun answered _ => ?_
  cases herrand : answered.call.errand? with
  | none => exact h answered herrand
  | some act => rfl

theorem discovered?_eq_none {answered : Answered δ κ} (h : answered.call.errand? = none) :
    answered.discovered? = none := by
  obtain ⟨call, reply⟩ := answered
  cases call with
  | publicIp => cases h
  | _ => rfl

theorem served?_eq_none {answered : Answered δ κ} (h : answered.call.errand? = none) :
    answered.served? = none := by
  obtain ⟨call, reply⟩ := answered
  cases call with
  | getIp => cases h
  | _ => rfl

theorem pushed?_eq_none {answered : Answered δ κ} (h : answered.call.errand? = none) :
    answered.pushed? = none := by
  obtain ⟨call, reply⟩ := answered
  cases call with
  | setIp => cases h
  | _ => rfl

/-- What is before the first push was called before whatever comes after it. -/
theorem mem_of_mem_takeWhile {p : Answered δ κ → Bool} {failed answered : Answered δ κ}
    (h : ∃ other ∈ earlier ++ [failed], p other = false)
    (hanswered : answered ∈ (earlier ++ failed :: later).takeWhile p) : answered ∈ earlier := by
  induction earlier with
  | nil =>
    obtain ⟨other, hother, hstop⟩ := h
    rw [List.nil_append, List.mem_singleton] at hother
    subst hother
    simp [hstop] at hanswered
  | cons head rest ih =>
    rw [List.cons_append, List.takeWhile_cons] at hanswered
    split at hanswered
    · rename_i hhead
      rcases List.mem_cons.1 hanswered with rfl | hanswered
      · exact List.mem_cons_self
      · refine List.mem_cons_of_mem _ (ih ?_ hanswered)
        obtain ⟨other, hother, hstop⟩ := h
        rcases List.mem_cons.1 hother with rfl | hother
        · rw [hhead] at hstop
          cases hstop
        · exact ⟨other, hother, hstop⟩
    · exact absurd hanswered List.not_mem_nil

theorem StopsAtFailure.of_planned {succeeds : Bool}
    (planned : Planned (calls.filter (·.call.errand?.isSome)))
    (writes : ∀ answered ∈ calls, answered.call.errand? = none → answered.call.act? = none ∨
      answered.PatchesStatus key)
    (before : (∃ answered ∈ calls, answered.pushed?.isSome = true) →
      ∀ answered ∈ calls.takeWhile (·.pushed?.isNone), answered.succeeded = true)
    (settled : (∀ answered ∈ calls, answered.succeeded = true) →
      (∀ answered ∈ calls, answered.pushed?.isNone = true) →
        ∀ ip ∈ calls.filterMap Answered.discovered?,
          ∀ served ∈ calls.filterMap Answered.served?, served = ip)
    (succeeds_iff : succeeds = true ↔ ∀ answered ∈ calls, answered.succeeded = true)
    (stops : ∀ failed later, calls.dropWhile Answered.succeeded = failed :: later →
      (∀ answered ∈ later, answered.call.act? = none ∨
        failed.verdict?.isSome = true ∧ answered.PatchesStatus key) ∧
      (later.filter (·.call.act?.isSome)).length ≤ 1) :
    StopsAtFailure key succeeds calls := by
  let errands := calls.filter (·.call.errand?.isSome)
  have herrands : calls.filterMap (·.call.errand?) = errands.filterMap (·.call.errand?) :=
    filterMap_eq_of_errands fun _ h => h
  have hdiscovered : calls.filterMap Answered.discovered? = errands.filterMap Answered.discovered? :=
    filterMap_eq_of_errands fun _ => discovered?_eq_none
  have hserved : calls.filterMap Answered.served? = errands.filterMap Answered.served? :=
    filterMap_eq_of_errands fun _ => served?_eq_none
  have hpushed : calls.filterMap Answered.pushed? = errands.filterMap Answered.pushed? :=
    filterMap_eq_of_errands fun _ => pushed?_eq_none
  refine ⟨?_, writes, ⟨fun push => ⟨before push, ?_⟩, fun ⟨hbefore, differs⟩ => ?_⟩, ?_,
    succeeds_iff, stops⟩
  · rw [herrands]
    exact planned.ordered
  · rw [hdiscovered, hserved]
    obtain ⟨answered, hanswered, hpush⟩ := push
    refine planned.pushes ⟨answered, List.mem_filter.2 ⟨hanswered, ?_⟩, hpush⟩
    rw [Option.isSome_iff_ne_none]
    intro hnone
    rw [pushed?_eq_none hnone] at hpush
    cases hpush
  · by_contra hnone
    have unpushed : ∀ answered ∈ calls, answered.pushed?.isNone = true := by
      intro answered hanswered
      rw [Option.isNone_iff_eq_none, ← Option.not_isSome_iff_eq_none]
      exact fun hpush => hnone ⟨answered, hanswered, hpush⟩
    rw [List.takeWhile_eq_self_iff.2 unpushed] at hbefore
    obtain ⟨ip, hip, served, hserved, hne⟩ := differs
    exact hne (settled hbefore unpushed ip hip served hserved)
  · rw [hdiscovered, hpushed]
    exact planned.pushed

/-! ### How far a pass has come -/

structure Course (key : ObjectKey) (errands calls : List (Answered δ κ)) : Prop where
  errands_eq : calls.filter (·.call.errand?.isSome) = errands
  writes : ∀ answered ∈ calls, answered.call.errand? = none → answered.call.act? = none ∨
    answered.PatchesStatus key
  succeeded : ∀ answered ∈ calls, answered.succeeded = true

namespace Course

theorem nil (key : ObjectKey) : Course key ([] : List (Answered δ κ)) [] :=
  ⟨rfl, fun _ h => absurd h List.not_mem_nil, fun _ h => absurd h List.not_mem_nil⟩

theorem append (course : Course key errands calls) {answered : Answered δ κ}
    (writes : answered.call.errand? = none → answered.call.act? = none ∨
      answered.PatchesStatus key)
    (succeeded : answered.succeeded = true) :
    Course key (errands ++ [answered].filter (·.call.errand?.isSome)) (calls ++ [answered]) := by
  refine ⟨?_, fun other hother => ?_, fun other hother => ?_⟩
  · rw [List.filter_append, course.errands_eq]
  · rcases List.mem_append.1 hother with hother | hother
    · exact course.writes other hother
    · rw [List.mem_singleton.1 hother]
      exact writes
  · rcases List.mem_append.1 hother with hother | hother
    · exact course.succeeded other hother
    · rw [List.mem_singleton.1 hother]
      exact succeeded

/-- A pass all of whose calls succeeded has ended well. -/
theorem stopsAtFailure (course : Course key errands calls) (planned : Planned errands)
    (settled : (∀ answered ∈ errands, answered.pushed?.isNone = true) →
      ∀ ip ∈ errands.filterMap Answered.discovered?,
        ∀ served ∈ errands.filterMap Answered.served?, served = ip) :
    StopsAtFailure key true calls := by
  have hdiscovered : calls.filterMap Answered.discovered? = errands.filterMap Answered.discovered? :=
    course.errands_eq ▸ filterMap_eq_of_errands fun _ => discovered?_eq_none
  have hserved : calls.filterMap Answered.served? = errands.filterMap Answered.served? :=
    course.errands_eq ▸ filterMap_eq_of_errands fun _ => served?_eq_none
  refine .of_planned (course.errands_eq ▸ planned) course.writes (fun _ answered h => ?_)
    (fun _ unpushed => ?_) ?_ ?_
  · exact course.succeeded answered ((List.takeWhile_sublist _).subset h)
  · rw [hdiscovered, hserved]
    refine settled fun answered h => unpushed answered ?_
    rw [← course.errands_eq] at h
    exact (List.mem_filter.1 h).1
  · exact ⟨fun _ => course.succeeded, fun _ => rfl⟩
  · intro failed later h
    rw [List.dropWhile_eq_nil_iff.2 course.succeeded] at h
    cases h

/-- A pass has stopped if nothing but the recording of a failed lookup or construction comes after the
first call that failed. -/
theorem stopsAtFailure_of_failed (course : Course key errands earlier) {failed : Answered δ κ}
    (planned : Planned (errands ++ [failed].filter (·.call.errand?.isSome)))
    (hfailed : failed.succeeded = false)
    (writes : failed.call.errand? = none → failed.PatchesStatus key)
    (aftermath : ∀ answered ∈ later, answered.call.act? = none ∨
      failed.verdict?.isSome = true ∧ answered.PatchesStatus key)
    (atMost : (later.filter (·.call.act?.isSome)).length ≤ 1) :
    StopsAtFailure key false (earlier ++ failed :: later) := by
  have noErrand : ∀ answered ∈ later, answered.call.errand? = none := by
    intro answered hanswered
    rcases aftermath answered hanswered with hnone | ⟨-, patch, hpatch⟩
    · cases hcall : answered.call with
      | patchStatus => rfl
      | _ => rw [hcall] at hnone; exact hnone
    · rw [hpatch]
      rfl
  have noErrands : later.filter (·.call.errand?.isSome) = [] := by
    rw [List.filter_eq_nil_iff]
    intro answered hanswered
    simp [noErrand answered hanswered]
  have hall : ¬∀ answered ∈ earlier ++ failed :: later, answered.succeeded = true := by
    intro h
    have := h failed (by simp)
    rw [hfailed] at this
    cases this
  refine .of_planned ?_ (fun answered h => ?_) (fun push answered h => ?_) (fun h => absurd h hall)
    ⟨fun h => absurd h Bool.false_ne_true, fun h => absurd h hall⟩ fun other rest h => ?_
  · have hsplit : earlier ++ failed :: later = earlier ++ [failed] ++ later := by simp
    rw [hsplit, List.filter_append, List.filter_append, course.errands_eq, noErrands,
      List.append_nil]
    exact planned
  · rcases List.mem_append.1 h with h | h
    · exact course.writes answered h
    · rcases List.mem_cons.1 h with rfl | h
      · exact fun hnone => .inr (writes hnone)
      · exact fun _ => (aftermath answered h).imp_right And.right
  · -- Whatever pushes is not later than the failure.
    refine course.succeeded answered (mem_of_mem_takeWhile ?_ h)
    obtain ⟨other, hother, hpush⟩ := push
    have hmem : other ∈ earlier ++ [failed] := by
      rw [List.append_cons] at hother
      rcases List.mem_append.1 hother with hother | hother
      · exact hother
      · rw [pushed?_eq_none (noErrand other hother)] at hpush
        cases hpush
    refine ⟨other, hmem, ?_⟩
    rw [← Option.not_isSome, hpush]
    rfl
  · rw [List.dropWhile_append_of_pos course.succeeded,
      List.dropWhile_cons_of_neg (by rw [hfailed]; exact Bool.false_ne_true)] at h
    cases h
    exact ⟨aftermath, atMost⟩

end Course

/-! ### What the calls up to a phase say -/

structure Hears (calls : List (Answered δ κ)) (discovered served pushed : List String) : Prop where
  discovered : calls.filterMap Answered.discovered? = discovered
  served : calls.filterMap Answered.served? = served
  pushed : calls.filterMap Answered.pushed? = pushed

theorem Hears.append {discovered served pushed : List String}
    (hears : Hears calls discovered served pushed) (answered : Answered δ κ) :
    Hears (calls ++ [answered]) (discovered ++ [answered].filterMap Answered.discovered?)
      (served ++ [answered].filterMap Answered.served?)
      (pushed ++ [answered].filterMap Answered.pushed?) where
  discovered := by rw [List.filterMap_append, hears.discovered]
  served := by rw [List.filterMap_append, hears.served]
  pushed := by rw [List.filterMap_append, hears.pushed]

namespace Phase

/-- What the calls of a pass say of addresses when it has come to a phase. -/
def Tells (calls : List (Answered δ κ)) : Phase δ → Prop
  | .opening | .absent | .preparing _ => Hears calls [] [] []
  | .discovered _ ip | .unlocked _ ip _ | .equipped _ ip _ _ | .connected _ ip _ =>
    Hears calls [ip] [] []
  | .compared _ ip _ served => Hears calls [ip] [served] []
  | .pushed _ ip _ => ∃ served, served ≠ ip ∧ Hears calls [ip] [served] [ip]
  | .finished => True

theorem Tells.aside {phase : Phase δ} (told : phase.Tells calls) (answered : Answered δ κ)
    (discovered : answered.discovered? = none) (served : answered.served? = none)
    (pushed : answered.pushed? = none) : phase.Tells (calls ++ [answered]) := by
  have keeps {ips reads pushes : List String} (hears : Hears calls ips reads pushes) :
      Hears (calls ++ [answered]) ips reads pushes := by
    have h := hears.append answered
    simpa only [List.filterMap_cons, discovered, served, pushed, List.filterMap_nil,
      List.append_nil] using h
  cases phase with
  | pushed =>
    obtain ⟨served, hne, hears⟩ := told
    exact ⟨served, hne, keeps hears⟩
  | finished => trivial
  | _ => exact keeps told

theorem Tells.next {phase : Phase δ} (told : phase.Tells calls) {call : Call δ κ}
    (allowed : phase.allows key call) (reply : call.Reply) :
    (phase.next call reply).Tells (calls ++ [⟨call, reply⟩]) := by
  cases call with
  | getProvider k =>
    obtain ⟨rfl, -⟩ := allowed
    rcases reply with failure | _ | provider
    · trivial
    · exact told.append _
    · exact told.append _
  | publicIp preferred =>
    obtain ⟨provider, rfl, -⟩ := allowed
    cases reply with
    | error e => trivial
    | ok ip => exact told.append _
  | getIp client =>
    obtain ⟨provider, ip, rfl⟩ := allowed
    cases reply with
    | error e => trivial
    | ok served => exact told.append _
  | setIp client ip =>
    obtain ⟨provider, served, rfl, hne⟩ := allowed
    cases reply with
    | error e => trivial
    | ok value => exact ⟨served, hne.symm, told.append _⟩
  | getSecret | getConfigMap | createClient =>
    have aside := told.aside ⟨_, reply⟩ rfl rfl rfl
    cases phase <;> cases reply <;> exact aside
  | patchStatus | now | elapsed | record =>
    have aside := told.aside ⟨_, reply⟩ rfl rfl rfl
    cases phase <;> exact aside
  | listProviders | getNotifier | patchProvider | createChannel | greet | notify => cases allowed

end Phase

end Pass

end DynamicDns
