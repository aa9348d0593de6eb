import DynamicDns.Proofs.Pass.Settling
import DynamicDns.Proofs.Run.Answer

/-!
# Passes where nothing fails

An estate is a cluster, the address that the account of each provider serves, and the calls that were
made so far. The store takes every patch that it can, lookups and constructions and deliveries
succeed, each provider is found the same public address at all times, and an account serves what was
last pushed to it. Passes are made one after the other. What a pass over an object makes of an estate
is known while it goes on (`Tended`): the store holds what the pass remembers, and as long as nothing
was stirred all is as it was.
-/

namespace DynamicDns

open Pass (Outcome Follows)

variable {δ κ σ τ : Type}

/-- Whether a call writes to the store, pushes an address, or tells somebody something. -/
def Call.stirs : Call δ κ → Bool
  | .patchStatus _ _ _ | .patchProvider _ _ | .setIp _ _ | .greet _ | .notify _ _ => true
  | _ => false

structure Estate (δ κ : Type) where
  cluster : Cluster
  accounts : ObjectKey → String
  calls : List (Answered δ κ)

/-- What does not change about the world around an estate: which namespace listings are confined to,
the public address that is found for each provider, and the provider that a client belongs to. -/
structure Surroundings (δ : Type) where
  scope : Option String
  ip : ObjectKey → String
  owner : δ → ObjectKey

namespace Surroundings

def Furnishes (world : Surroundings δ) (key : ObjectKey) (accounts : ObjectKey → String) :
    (call : Call δ κ) → call.Reply → Prop
  | .publicIp _, reply => reply = .ok (world.ip key)
  | .getSecret _, reply => reply.isOk = true
  | .getConfigMap _, reply => reply.isOk = true
  | .createClient _ _ _, reply => ∃ client, reply = .ok client ∧ world.owner client = key
  | .createChannel _ _ _, reply => ∃ channel, reply = .ok channel
  | .getIp client, reply => reply = .ok (accounts (world.owner client))
  | .setIp _ _, reply => reply = .ok ()
  | .greet _, reply => reply = .ok ()
  | .notify _ _, reply => reply = .ok ()
  | _, _ => True

def pushed (world : Surroundings δ) (accounts : ObjectKey → String) :
    Call δ κ → ObjectKey → String
  | .setIp client ip => Function.update accounts (world.owner client) ip
  | _ => accounts

end Surroundings

namespace Estate

structure Serves (world : Surroundings δ) (key : ObjectKey) (estate : Estate δ κ) (call : Call δ κ)
    (reply : call.Reply) (estate' : Estate δ κ) : Prop where
  furnished : world.Furnishes key estate.accounts call reply
  answered : ∃ outside, estate.cluster.answer world.scope none outside call = (reply, estate'.cluster)
  accounts : estate'.accounts = world.pushed estate.accounts call
  calls : estate'.calls = estate.calls ++ [⟨call, reply⟩]

def rules (κ : Type) (world : Surroundings δ) (key : ObjectKey) :
    Program.Rules (@Call.Reply δ κ) (Estate δ κ) where
  allows _ _ := True
  answers := Serves world key
  fails _ := False

variable {world : Surroundings δ} {key : ObjectKey} {start estate estate' : Estate δ κ}
  {call : Call δ κ} {reply : call.Reply}

/-! ### What a pass makes of an estate -/

/-- A number of calls that stir were made since, and without any nothing has changed. -/
structure Since (start : Estate δ κ) (stirred : Nat) (estate : Estate δ κ) : Prop where
  calls : ∃ later, estate.calls = start.calls ++ later ∧
    later.countP (·.call.stirs) = stirred
  still : stirred = 0 → estate.cluster = start.cluster ∧ estate.accounts = start.accounts

theorem Since.refl (estate : Estate δ κ) : Since estate 0 estate :=
  ⟨⟨[], (List.append_nil _).symm, rfl⟩, fun _ => ⟨rfl, rfl⟩⟩

theorem Serves.still (serves : estate.Serves world key call reply estate')
    (calm : call.stirs = false) :
    estate'.cluster = estate.cluster ∧ estate'.accounts = estate.accounts := by
  obtain ⟨-, ⟨outside, hanswer⟩, haccounts, -⟩ := serves
  cases call with
  | patchStatus | patchProvider | setIp | greet | notify => cases calm
  | _ => exact ⟨(Prod.mk.inj hanswer).2.symm, haccounts⟩

theorem Since.serves {stirred : Nat} (since : Since start stirred estate)
    (serves : estate.Serves world key call reply estate') :
    Since start (stirred + call.stirs.toNat) estate' := by
  obtain ⟨⟨later, hcalls, hstirred⟩, still⟩ := since
  refine ⟨⟨later ++ [⟨call, reply⟩], ?_, ?_⟩, fun hnone => ?_⟩
  · rw [serves.calls, hcalls, List.append_assoc]
  · rw [List.countP_append, hstirred, List.countP_singleton]
    cases call.stirs <;> rfl
  · obtain ⟨hbefore, hcall⟩ := Nat.add_eq_zero_iff.1 hnone
    obtain ⟨hcluster, haccounts⟩ := serves.still (by simpa using hcall)
    exact ⟨hcluster.trans (still hbefore).1, haccounts.trans (still hbefore).2⟩

variable [Codec σ] [Status τ] [Shelved σ τ]

/-- What a pass over an object has made of an estate with a number of calls that stir: the store holds
what the pass remembers, and something is known of the cluster all along. -/
structure Tended (key : ObjectKey) (start : Estate δ κ) (accounts : ObjectKey → String)
    (along : Cluster → Prop) (stirred : Nat) (r : Resource σ τ) (estate : Estate δ κ) : Prop where
  holds : estate.cluster.Holds key r
  own : r.key = key
  accounts : estate.accounts = accounts
  since : Since start stirred estate
  along : along estate.cluster

variable (σ τ) in
def Survives (key : ObjectKey) (along : Cluster → Prop) : Prop :=
  ∀ (cluster : Cluster) (r : Resource σ τ) (status : τ), along cluster → cluster.Holds key r →
    r.key = key → along (cluster.store key (r.put status))

variable {accounts : ObjectKey → String} {along : Cluster → Prop} {stirred : Nat}
  {r : Resource σ τ}

theorem tended_start (found : start.cluster.stored? key = some r) (own : r.key = key)
    (h : along start.cluster) : Tended key start start.accounts along 0 r start :=
  ⟨.of_stored found, own, rfl, .refl _, h⟩

namespace Tended

theorem asks (tended : Tended key start accounts along stirred r estate)
    (serves : estate.Serves world key call reply estate')
    (same : ∀ outside, (estate.cluster.answer world.scope none outside call).2 = estate.cluster) :
    Tended key start (world.pushed accounts call) along (stirred + call.stirs.toNat) r
      estate' := by
  have since := tended.since.serves serves
  obtain ⟨-, ⟨outside, hanswer⟩, haccounts, -⟩ := serves
  have hcluster : estate'.cluster = estate.cluster := by
    rw [← same outside, hanswer]
  refine ⟨hcluster ▸ tended.holds, tended.own, haccounts.trans (by rw [tended.accounts]), since, ?_⟩
  rw [hcluster]
  exact tended.along

theorem initialized (tended : Tended key start accounts along stirred r estate) :
    Tended key start accounts along stirred (r.put r.statusOrInitial) estate :=
  ⟨tended.holds.initialized, tended.own, tended.accounts, tended.since, tended.along⟩

variable [LawfulCodec σ] [LawfulStatus τ]

theorem patches (tended : Tended key start accounts along stirred r estate)
    (survives : Survives σ τ key along) {status : τ} {reply : Except Failure Unit}
    (serves : estate.Serves world key
      (.patchStatus (Status.kind τ) r.key (Pass.statusPatch r.status status)) reply estate') :
    reply = .ok () ∧ Tended key start accounts along (stirred + 1) (r.put status) estate' := by
  have since := tended.since.serves serves
  obtain ⟨-, ⟨outside, hanswer⟩, haccounts, -⟩ := serves
  rw [tended.own, tended.holds.answer_statusPatch] at hanswer
  obtain ⟨rfl, hcluster⟩ := Prod.mk.inj hanswer
  refine ⟨rfl, hcluster ▸ .store _ key _, tended.own, haccounts.trans tended.accounts, since, ?_⟩
  rw [← hcluster]
  exact survives _ r status tended.along tended.holds tended.own

end Tended

variable [LawfulCodec σ] [LawfulStatus τ]

theorem follows_tended (survives : Survives σ τ key along) (accounts : ObjectKey → String)
    (stirred : Nat) :
    Follows (rules κ world key)
      (fun (r : Resource σ τ) estate => Tended key start accounts along stirred r estate)
      fun sent r estate => Tended key start accounts along (stirred + sent.toNat) r estate where
  clock r estate tended := ⟨trivial, fun now estate' serves => tended.asks serves fun _ => rfl⟩
  sends r estate tended status := by
    refine ⟨trivial, fun reply estate' serves => ?_⟩
    obtain ⟨rfl, tended'⟩ := tended.patches survives serves
    exact tended'
  rests r estate tended := tended.initialized

/-! ### Looking something up -/

variable [Dependent σ] {origin : Resource σ τ} {wanted : Resource σ τ → Prop}

theorem keeps_unlocked (survives : Survives σ τ key along)
    (settles : origin.Settles wanted stirred r)
    (tended : Tended key start accounts along stirred r estate)
    (kept : ∀ changes more r', r.Records Condition.typeSecret changes more r' → wanted r') :
    (Pass.fetchSecret : Pass δ κ (Resource σ τ) Secret).Keeps (rules κ world key)
      (fun _ r' estate' => ∃ n, origin.Settles (fun r => wanted r ∧ r.Unlocked) n r' ∧
        Tended key start accounts along n r' estate') r estate := by
  let held (reply : Except LookupError Secret) (n : Nat) (r : Resource σ τ) (estate : Estate δ κ) :
      Prop := reply.isOk = true ∧ Tended key start accounts along n r estate
  have counts (reply : Except LookupError Secret) (n : Nat) : Follows (rules κ world key)
      (held reply n) fun more => held reply (n + more.toNat) :=
    (follows_tended survives accounts n).knowing _
  refine Pass.Keeps.mono (Pass.keeps_unlock counts settles ⟨trivial, fun reply estate' serves => ?_⟩
    kept ?_) ?_
  · exact ⟨serves.furnished, tended.asks serves fun _ => rfl⟩
  · rintro e n r' estate' - ⟨absurd, -⟩
    cases absurd
  · rintro secret r' estate' ⟨n, settles', -, tended'⟩
    exact ⟨n, settles', tended'⟩

theorem keeps_equipped (survives : Survives σ τ key along)
    (settles : origin.Settles wanted stirred r)
    (tended : Tended key start accounts along stirred r estate)
    (kept : ∀ changes more r', r.Records Condition.typeConfigMap changes more r' → wanted r') :
    (Pass.fetchConfigMap : Pass δ κ (Resource σ τ) ConfigMap).Keeps (rules κ world key)
      (fun _ r' estate' => ∃ n, origin.Settles (fun r => wanted r ∧ r.Equipped) n r' ∧
        Tended key start accounts along n r' estate') r estate := by
  let held (reply : Except LookupError ConfigMap) (n : Nat) (r : Resource σ τ)
      (estate : Estate δ κ) : Prop := reply.isOk = true ∧ Tended key start accounts along n r estate
  have counts (reply : Except LookupError ConfigMap) (n : Nat) : Follows (rules κ world key)
      (held reply n) fun more => held reply (n + more.toNat) :=
    (follows_tended survives accounts n).knowing _
  refine Pass.Keeps.mono (Pass.keeps_equip counts settles ⟨trivial, fun reply estate' serves => ?_⟩
    kept ?_) ?_
  · exact ⟨serves.furnished, tended.asks serves fun _ => rfl⟩
  · rintro e n r' estate' - ⟨absurd, -⟩
    cases absurd
  · rintro configMap r' estate' ⟨n, settles', -, tended'⟩
    exact ⟨n, settles', tended'⟩

end Estate

end DynamicDns
