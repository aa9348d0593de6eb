import DynamicDns.Proofs.Pass.Plan

/-!
# What a pass is answered by the store

A call is answered in one of the ways that the store and the world outside have of answering it. The
store refuses a patch, and is as before, or it holds what was patched. Between the calls of a pass
others may change the cluster, but as long as they keep away from the status of a resource it stays in
step with what the pass remembers; and as long as they keep away from the resource altogether, it is
what the pass remembers (`Cluster.Holds`). A trail is what has become of the cluster, and which calls
have led there.
-/

namespace DynamicDns

variable {δ κ σ τ : Type} [Codec σ] [Status τ] [Shelved σ τ]

namespace Cluster

/-- A call can be answered in a cluster so that it becomes another. -/
def Answers (scope : Option String) (cluster : Cluster) (call : Call δ κ) (reply : call.Reply)
    (cluster' : Cluster) : Prop :=
  ∃ refusal outside, cluster.answer scope refusal outside call = (reply, cluster')

theorem answer_statusPatch [LawfulCodec σ] [LawfulStatus τ] {scope : Option String}
    {refusal : Option Failure} {outside : (call : Call δ κ) → call.Reply} {cluster : Cluster}
    {key : ObjectKey} {stored : Resource σ τ} {memory : Option τ}
    (found : cluster.stored? key = some stored) (inStep : InStep stored.status memory) (after : τ) :
    cluster.answer scope refusal outside
        (.patchStatus (Status.kind τ) key (Pass.statusPatch memory after)) =
      match refusal with
      | some failure => (.error failure, cluster)
      | none => (.ok (), cluster.store key { stored with status := some after }) := by
  cases refusal with
  | some failure => rfl
  | none => simp [answer, patching, patch_statusPatch found inStep after]

variable (τ) in
/-- A change of the cluster that leaves the status of a resource as it is. -/
def Undisturbed (key : ObjectKey) (cluster cluster' : Cluster) : Prop :=
  (cluster'.stored? key : Option (Resource σ τ)).map (·.status) =
    (cluster.stored? key : Option (Resource σ τ)).map (·.status)

theorem Undisturbed.stored {key : ObjectKey} {cluster cluster' : Cluster} {stored : Resource σ τ}
    (h : Undisturbed τ key cluster cluster') (found : cluster.stored? key = some stored) :
    ∃ stored' : Resource σ τ,
      cluster'.stored? key = some stored' ∧ stored'.status = stored.status := by
  rw [Undisturbed, found] at h
  exact Option.map_eq_some_iff.1 h

/-- What a pass remembers of the resource that it found: all but the status as it was, and the status as
it is stored. -/
structure Attached (key : ObjectKey) (found r : Resource σ τ) (cluster : Cluster) : Prop where
  resembles : Pass.Resembles found r
  inStep : ∃ stored : Resource σ τ, cluster.stored? key = some stored ∧ InStep stored.status r.status

namespace Attached

variable {scope : Option String} {key : ObjectKey} {found r : Resource σ τ}
  {cluster cluster' : Cluster}

theorem of_stored (h : cluster.stored? key = some found) : Attached key found found cluster :=
  ⟨⟨rfl, rfl⟩, found, h, .refl _⟩

theorem undisturbed (attached : Attached key found r cluster)
    (h : Undisturbed τ key cluster cluster') : Attached key found r cluster' := by
  obtain ⟨resembles, stored, hstored, inStep⟩ := attached
  obtain ⟨stored', hstored', hstatus⟩ := h.stored hstored
  exact ⟨resembles, stored', hstored', hstatus ▸ inStep⟩

theorem initialized (attached : Attached key found r cluster) :
    Attached key found { r with status := some r.statusOrInitial } cluster := by
  obtain ⟨⟨hmetadata, hspec⟩, stored, hstored, inStep⟩ := attached
  exact ⟨⟨hmetadata, hspec⟩, stored, hstored, inStep.initialized⟩

theorem agrees (attached : Attached key found r cluster) :
    ∃ stored : Resource σ τ, cluster.stored? key = some stored ∧
      stored.statusOrInitial = r.statusOrInitial := by
  obtain ⟨-, stored, hstored, inStep⟩ := attached
  exact ⟨stored, hstored, inStep.getD_eq⟩

theorem answers (attached : Attached key found r cluster) {call : Call δ κ} {reply : call.Reply}
    (spares : call.Spares τ) (h : cluster.Answers scope call reply cluster') :
    Attached key found r cluster' := by
  obtain ⟨refusal, outside, hanswer⟩ := h
  apply attached.undisturbed
  have hkept := spares.keeps scope refusal outside cluster key
  rw [hanswer] at hkept
  rw [Undisturbed, hkept]

theorem patches [LawfulCodec σ] [LawfulStatus τ] (attached : Attached key found r cluster)
    (status : τ) {reply : Except Failure Unit}
    (h : cluster.Answers scope (.patchStatus (Status.kind τ) key
      (Pass.statusPatch r.status status) : Call δ κ) reply cluster') :
    match reply with
    | .ok () => Attached key found { r with status := some status } cluster'
    | .error _ => cluster' = cluster := by
  obtain ⟨refusal, outside, hanswer⟩ := h
  obtain ⟨⟨hmetadata, hspec⟩, stored, hstored, inStep⟩ := attached
  rw [Cluster.answer_statusPatch hstored inStep] at hanswer
  cases refusal with
  | some failure =>
    obtain ⟨rfl, rfl⟩ := Prod.mk.inj hanswer
    rfl
  | none =>
    obtain ⟨rfl, rfl⟩ := Prod.mk.inj hanswer
    refine ⟨⟨hmetadata, hspec⟩, { stored with status := some status }, ?_, .refl _⟩
    exact (stored?_store cluster key key _).trans (if_pos rfl)

end Attached

/-- The cluster holds a resource as it is remembered; a status that was initialized in memory may not
be stored yet. -/
def Holds (cluster : Cluster) (key : ObjectKey) (r : Resource σ τ) : Prop :=
  ∃ stored : Resource σ τ, cluster.stored? key = some stored ∧ stored.metadata = r.metadata ∧
    stored.spec = r.spec ∧ InStep stored.status r.status

namespace Holds

variable {cluster : Cluster} {key : ObjectKey} {r : Resource σ τ}

theorem of_stored (found : cluster.stored? key = some r) : cluster.Holds key r :=
  ⟨r, found, rfl, rfl, InStep.refl _⟩

theorem store (cluster : Cluster) (key : ObjectKey) (r : Resource σ τ) :
    (cluster.store key r).Holds key r :=
  of_stored ((stored?_store cluster key key r).trans (if_pos rfl))

theorem initialized (h : cluster.Holds key r) :
    cluster.Holds key { r with status := some r.statusOrInitial } := by
  obtain ⟨stored, found, hmetadata, hspec, inStep⟩ := h
  exact ⟨stored, found, hmetadata, hspec, inStep.initialized⟩

theorem agrees (h : cluster.Holds key r) {stored : Resource σ τ}
    (found : cluster.stored? key = some stored) :
    stored.generation = r.generation ∧ stored.spec = r.spec ∧
      stored.statusOrInitial = r.statusOrInitial := by
  obtain ⟨other, found', hmetadata, hspec, inStep⟩ := h
  obtain rfl : stored = other := Option.some.inj (found.symm.trans found')
  exact ⟨by rw [Resource.generation, hmetadata, Resource.generation], hspec, inStep.getD_eq⟩

/-- A status that is made of what is remembered is stored. -/
theorem answer_statusPatch [LawfulCodec σ] [LawfulStatus τ] (h : cluster.Holds key r)
    (scope : Option String) (outside : (call : Call δ κ) → call.Reply) (status : τ) :
    cluster.answer scope none outside
        (.patchStatus (Status.kind τ) key (Pass.statusPatch r.status status)) =
      (.ok (), cluster.store key { r with status := some status }) := by
  obtain ⟨stored, found, hmetadata, hspec, inStep⟩ := h
  rw [Cluster.answer_statusPatch found inStep, hmetadata, hspec]

end Holds

end Cluster

/-! ### Trails -/

structure Trail (δ κ : Type) where
  cluster : Cluster
  calls : List (Answered δ κ)

def Trail.answer (scope : Option String) (refusal : Option Failure)
    (outside : (call : Call δ κ) → call.Reply) (call : Call δ κ) (trail : Trail δ κ) :
    call.Reply × Trail δ κ :=
  let (reply, cluster) := trail.cluster.answer scope refusal outside call
  (reply, ⟨cluster, trail.calls ++ [⟨call, reply⟩]⟩)

end DynamicDns
