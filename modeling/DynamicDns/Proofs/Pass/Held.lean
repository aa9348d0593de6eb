import DynamicDns.Proofs.Pass.Settling
import DynamicDns.Proofs.Run.Answer

/-!
# What the store holds in the course of a pass

Where the store refuses nothing and nobody else changes a resource, the store holds what a pass
remembers of it. This stays so whatever the pass asks of others, and a change of the status is stored
by one patch, or by none where nothing changed (`Unrefused.follows`).
-/

namespace DynamicDns

variable {δ κ σ τ : Type}

/-- Whether a call is answered by others than the store, the clocks and the counters. -/
def Call.consults : Call δ κ → Bool
  | .publicIp _ | .getSecret _ | .getConfigMap _ => true
  | .createClient _ _ _ | .getIp _ | .setIp _ _ => true
  | .createChannel _ _ _ | .greet _ | .notify _ _ => true
  | _ => false

namespace Trail

def patches (trail : Trail δ κ) : Nat :=
  trail.calls.countP fun answered => answered.call.act? = some .patchStatus

variable [Codec σ] [Status τ] [Shelved σ τ]

/-- What was asked of others so far, and how many patches were sent. The store holds what the pass
remembers. -/
structure Held (key : ObjectKey) (asked : List (Answered δ κ)) (sent : Nat) (r : Resource σ τ)
    (trail : Trail δ κ) : Prop where
  holds : trail.cluster.Holds key r
  own : r.key = key
  asked : trail.calls.filter (·.call.consults) = asked
  sent : trail.patches = sent

variable {scope : Option String} {outside : (call : Call δ κ) → call.Reply} {key : ObjectKey}
  {asked : List (Answered δ κ)} {sent : Nat} {r : Resource σ τ} {trail trail' : Trail δ κ}
  {call : Call δ κ} {reply : call.Reply}

namespace Held

theorem asks (held : Held key asked sent r trail)
    (answer : trail.answer scope none outside call = (reply, trail'))
    (consults : call.consults = true) :
    reply = outside call ∧ Held key (asked ++ [⟨call, reply⟩]) sent r trail' := by
  have hstore : trail.cluster.answer scope none outside call = (outside call, trail.cluster) := by
    cases call with
    | getProvider | listProviders | getNotifier | patchStatus | patchProvider => cases consults
    | _ => rfl
  have hnone : call.act? ≠ some .patchStatus := by
    intro h
    cases call with
    | patchStatus => cases consults
    | _ => cases h
  rw [Trail.answer, hstore] at answer
  obtain ⟨rfl, rfl⟩ := Prod.mk.inj answer
  refine ⟨rfl, held.holds, held.own, ?_, ?_⟩
  · rw [List.filter_append, held.asked]
    simp [consults]
  · rw [Trail.patches, List.countP_append, List.countP_cons_of_neg (by simpa using hnone)]
    exact held.sent

theorem aside (held : Held key asked sent r trail)
    (answer : trail.answer scope none outside call = (reply, trail')) (harmless : call.Harmless) :
    Held key asked sent r trail' := by
  cases call with
  | now | record =>
    obtain ⟨rfl, rfl⟩ := Prod.mk.inj answer
    refine ⟨held.holds, held.own, ?_, ?_⟩
    · rw [List.filter_append, held.asked]
      exact List.append_nil asked
    · rw [Trail.patches, List.countP_append]
      exact held.sent
  | _ => cases harmless

theorem patches [LawfulCodec σ] [LawfulStatus τ] (held : Held key asked sent r trail) {status : τ}
    {reply : Except Failure Unit}
    (answer : trail.answer scope none outside
      (.patchStatus (Status.kind τ) r.key (Pass.statusPatch r.status status)) = (reply, trail')) :
    reply = .ok () ∧ Held key asked (sent + 1) (r.put status) trail' := by
  have hstored : trail.cluster.answer scope none outside
      (.patchStatus (Status.kind τ) key (Pass.statusPatch r.status status)) = _ :=
    held.holds.answer_statusPatch scope outside status
  rw [held.own, Trail.answer, hstored] at answer
  obtain ⟨rfl, rfl⟩ := Prod.mk.inj answer
  refine ⟨rfl, Cluster.Holds.store _ key _, held.own, ?_, ?_⟩
  · rw [List.filter_append, held.asked]
    exact List.append_nil asked
  · rw [Trail.patches, List.countP_append]
    exact congrArg (· + 1) held.sent

end Held

def Met (answers : (call : Call δ κ) → call.Reply) (key : ObjectKey) (asked : List (Answered δ κ))
    (call : Call δ κ) (reply : call.Reply) (sent : Nat) (r : Resource σ τ) (trail : Trail δ κ) :
    Prop :=
  answers call = reply ∧ Held key (asked ++ [⟨call, reply⟩]) sent r trail

/-- Rules by which a pass may call whatever it likes, and is answered by a store that refuses nothing. -/
structure Unrefused (scope : Option String) (rules : Program.Rules (@Call.Reply δ κ) (Trail δ κ)) :
    Prop where
  allowed : ∀ trail call, rules.allows trail call
  answered : ∀ trail call reply trail', rules.answers trail call reply trail' →
    ∃ outside, trail.answer scope none outside call = (reply, trail')

namespace Unrefused

variable {rules : Program.Rules (@Call.Reply δ κ) (Trail δ κ)}

theorem aside (unrefused : Unrefused scope rules) (held : Held key asked sent r trail)
    (answer : rules.answers trail call reply trail') (harmless : call.Harmless) :
    Held key asked sent r trail' := by
  obtain ⟨outside, hanswer⟩ := unrefused.answered trail call reply trail' answer
  exact held.aside hanswer harmless

variable [LawfulCodec σ] [LawfulStatus τ]

/-- A change of the status is stored. -/
theorem follows (unrefused : Unrefused scope rules) (asked : List (Answered δ κ)) (sent : Nat) :
    Pass.Follows rules (fun (r : Resource σ τ) trail => Held key asked sent r trail)
      fun more r trail => Held key asked (sent + more.toNat) r trail where
  clock r trail held :=
    ⟨unrefused.allowed trail _, fun now trail' answer => unrefused.aside held answer trivial⟩
  sends r trail held status := by
    refine ⟨unrefused.allowed trail _, fun reply trail' answer => ?_⟩
    obtain ⟨outside, hanswer⟩ := unrefused.answered trail _ _ _ answer
    obtain ⟨rfl, held'⟩ := held.patches hanswer
    exact held'
  rests r trail held := ⟨held.holds.initialized, held.own, held.asked, held.sent⟩

theorem follows_met (unrefused : Unrefused scope rules)
    (answers : (call : Call δ κ) → call.Reply) (asked : List (Answered δ κ)) (call : Call δ κ)
    (reply : call.Reply) (sent : Nat) :
    Pass.Follows rules (fun (r : Resource σ τ) trail => Met answers key asked call reply sent r trail)
      fun more r trail => Met answers key asked call reply (sent + more.toNat) r trail :=
  (unrefused.follows (asked ++ [⟨call, reply⟩]) sent).knowing (answers call = reply)

end Unrefused

end Trail

end DynamicDns
