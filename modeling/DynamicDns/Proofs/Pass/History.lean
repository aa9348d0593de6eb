import DynamicDns.Proofs.Pass.Stage

/-!
# What a notifier pass has done

The past of a pass is the list of its calls and their answers, the latest first. A past is lawful if
each call was allowed at the stage at which it was made. Then the stage says in full what the pass
read, whether it greeted, what it listed and how its announcements went (`tells`): at no stage have
both a greeting and an announcement been made.
-/

namespace DynamicDns

variable {δ κ : Type}

structure Answered (δ κ : Type) where
  call : Call δ κ
  reply : call.Reply

def Answered.succeeded : Answered δ κ → Bool
  | ⟨.getProvider _, reply⟩ => reply.isOk
  | ⟨.listProviders, reply⟩ => reply.isOk
  | ⟨.getNotifier _, reply⟩ => reply.isOk
  | ⟨.patchStatus _ _ _, reply⟩ => reply.isOk
  | ⟨.patchProvider _ _, reply⟩ => reply.isOk
  | ⟨.getSecret _, reply⟩ => reply.isOk
  | ⟨.getConfigMap _, reply⟩ => reply.isOk
  | ⟨.publicIp _, reply⟩ => reply.isOk
  | ⟨.createClient _ _ _, reply⟩ => reply.isOk
  | ⟨.createChannel _ _ _, reply⟩ => reply.isOk
  | ⟨.getIp _, reply⟩ => reply.isOk
  | ⟨.setIp _ _, reply⟩ => reply.isOk
  | ⟨.greet _, reply⟩ => reply.isOk
  | ⟨.notify _ _, reply⟩ => reply.isOk
  | ⟨.now, _⟩ | ⟨.elapsed, _⟩ | ⟨.record _, _⟩ => true

namespace Pass

/-! ### What is to be seen in a past -/

def readings (past : List (Answered δ κ)) : List (Except Failure (Option Notifier)) :=
  past.filterMap fun
    | ⟨.getNotifier _, reply⟩ => some reply
    | _ => none

def listings (past : List (Answered δ κ)) : List (Except Failure (List Provider)) :=
  past.filterMap fun
    | ⟨.listProviders, reply⟩ => some reply
    | _ => none

def greetings (past : List (Answered δ κ)) : List Bool :=
  past.filterMap fun
    | ⟨.greet _, reply⟩ => some reply.isOk
    | _ => none

def notices (past : List (Answered δ κ)) : List Bool :=
  past.filterMap fun
    | ⟨.notify _ _, reply⟩ => some reply.isOk
    | _ => none

namespace Stage

def of (key : ObjectKey) : List (Answered δ κ) → Stage
  | [] => .opening
  | answered :: past => (of key past).next key answered.call answered.reply

def Lawful (key : ObjectKey) : List (Answered δ κ) → Prop
  | [] => True
  | answered :: past => allows key (of key past) answered.call ∧ Lawful key past

/-- What a past says at a stage. -/
def Tells (key : ObjectKey) (past : List (Answered δ κ)) : Stage → Prop
  | .opening => readings past = [] ∧ listings past = [] ∧ greetings past = [] ∧ notices past = []
  | .absent =>
    readings past = [.ok none] ∧ listings past = [] ∧ greetings past = [] ∧ notices past = []
  | .preparing notifier =>
    readings past = [.ok (some notifier)] ∧ listings past = [] ∧ greetings past = [] ∧
      notices past = []
  | .greeted notifier delivered =>
    readings past = [.ok (some notifier)] ∧ listings past = [] ∧ greetings past = [delivered] ∧
      notices past = [] ∧ notifier.statusOrInitial.isReady = false
  | .promoted notifier =>
    readings past = [.ok (some notifier)] ∧ listings past = [] ∧ greetings past = [true] ∧
      notices past = [] ∧ notifier.statusOrInitial.isReady = false
  | .announcing notifier listed due =>
    readings past = [.ok (some notifier)] ∧ listings past = [.ok listed] ∧ greetings past = [] ∧
      (∀ delivered ∈ notices past, delivered = true) ∧ notifier.statusOrInitial.isReady = true ∧
        due <:+ dueAmong key (Marker.ofNotifier notifier) listed
  | .owing notifier listed provider ip due =>
    readings past = [.ok (some notifier)] ∧ listings past = [.ok listed] ∧ greetings past = [] ∧
      (∀ delivered ∈ notices past, delivered = true) ∧ notifier.statusOrInitial.isReady = true ∧
        (provider, ip) :: due <:+ dueAmong key (Marker.ofNotifier notifier) listed
  | .refused notifier | .demoted notifier =>
    readings past = [.ok (some notifier)] ∧ greetings past = [] ∧ false ∈ notices past ∧
      notifier.statusOrInitial.isReady = true
  | .finished => greetings past = [] ∨ notices past = []

/-- No pass both greets and announces. -/
theorem Tells.apart {key : ObjectKey} {past : List (Answered δ κ)} {stage : Stage} (told : Tells key past stage) :
    greetings past = [] ∨ notices past = [] := by
  cases stage with
  | opening | absent | preparing => exact .inl told.2.2.1
  | greeted | promoted => exact .inr told.2.2.2.1
  | announcing | owing => exact .inl told.2.2.1
  | refused | demoted => exact .inl told.2.1
  | finished => exact told

theorem Tells.next {key : ObjectKey} {stage : Stage} {past : List (Answered δ κ)}
    (told : Tells key past stage) {call : Call δ κ} (allowed : allows key stage call)
    (reply : call.Reply) : Tells key (⟨call, reply⟩ :: past) (stage.next key call reply) := by
  cases call with
  | getNotifier k =>
    obtain ⟨rfl, -⟩ := allowed
    obtain ⟨hreadings, hlistings, hgreetings, hnotices⟩ := told
    cases reply with
    | error failure => exact .inl hgreetings
    | ok found =>
      have hread : readings (⟨.getNotifier k, .ok found⟩ :: past) = [.ok found] := by
        change Except.ok found :: readings past = _
        rw [hreadings]
      cases found with
      | none => exact ⟨hread, hlistings, hgreetings, hnotices⟩
      | some notifier => exact ⟨hread, hlistings, hgreetings, hnotices⟩
  | listProviders =>
    obtain ⟨notifier, rfl, hready⟩ := allowed
    obtain ⟨hreadings, hlistings, hgreetings, hnotices⟩ := told
    cases reply with
    | error failure => exact .inl hgreetings
    | ok listed =>
      refine ⟨hreadings, ?_, hgreetings, fun delivered hdelivered => ?_, hready, List.suffix_refl _⟩
      · change Except.ok listed :: listings past = _
        rw [hlistings]
      · change delivered ∈ notices past at hdelivered
        rw [hnotices] at hdelivered
        cases hdelivered
  | greet channel =>
    obtain ⟨notifier, rfl, hready⟩ := allowed
    obtain ⟨hreadings, hlistings, hgreetings, hnotices⟩ := told
    exact ⟨hreadings, hlistings, congrArg (List.cons reply.isOk) hgreetings, hnotices, hready⟩
  | notify channel message =>
    obtain ⟨provider, ip, hnext, -⟩ := allowed
    obtain ⟨notifier, listed, due, rfl⟩ := announces?_eq_some hnext
    obtain ⟨hreadings, hlistings, hgreetings, hnotices, hready, hdue⟩ := told
    cases reply with
    | error e => exact ⟨hreadings, hgreetings, List.mem_cons_self, hready⟩
    | ok value =>
      refine ⟨hreadings, hlistings, hgreetings, fun delivered hdelivered => ?_, hready, hdue⟩
      rcases List.mem_cons.1 hdelivered with rfl | hdelivered
      · rfl
      · exact hnotices delivered hdelivered
  | patchStatus kind k patch =>
    obtain ⟨notifier, old, new, hwrites, -⟩ := allowed
    cases reply with
    | error failure =>
      change Tells key _ (stage.afterWriting false)
      rw [afterWriting_false]
      exact told.apart
    | ok value =>
      cases stage with
      | greeted notifier delivered => cases delivered <;> exact told
      | _ => exact told
  | patchProvider k patch =>
    obtain ⟨notifier, provider, ip, howes, -⟩ := allowed
    obtain ⟨listed, due, rfl⟩ := owes?_eq_some howes
    cases reply with
    | error failure => exact told.apart
    | ok value =>
      obtain ⟨hreadings, hlistings, hgreetings, hnotices, hready, hdue⟩ := told
      exact ⟨hreadings, hlistings, hgreetings, hnotices, hready,
        (List.suffix_cons _ due).trans hdue⟩
  | getSecret | getConfigMap | createChannel | now | elapsed | record =>
    cases stage <;> exact told
  | getProvider | publicIp | createClient | getIp | setIp => cases allowed

theorem tells {key : ObjectKey} {past : List (Answered δ κ)} (lawful : Lawful key past) :
    Tells key past (of key past) := by
  induction past with
  | nil => exact ⟨rfl, rfl, rfl, rfl⟩
  | cons answered past ih => exact (ih lawful.2).next lawful.1 answered.reply

theorem reads_of_writes? {key : ObjectKey} {past : List (Answered δ κ)} {stage : Stage}
    (told : Tells key past stage)
    {notifier : Notifier} {old new : Bool} (h : stage.writes? = some (notifier, old, new)) :
    readings past = [.ok (some notifier)] := by
  cases stage with
  | preparing | greeted | announcing | owing | refused =>
    cases h
    exact told.1
  | _ => cases h

theorem reads_of_owes? {key : ObjectKey} {past : List (Answered δ κ)} {stage : Stage}
    (told : Tells key past stage)
    {notifier : Notifier} {provider : Provider} {ip : String}
    (h : stage.owes? = some (notifier, provider, ip)) :
    readings past = [.ok (some notifier)] := by
  obtain ⟨listed, due, rfl⟩ := owes?_eq_some h
  exact told.1

end Stage

end Pass

end DynamicDns
