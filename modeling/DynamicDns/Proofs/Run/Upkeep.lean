import DynamicDns.Proofs.Pass.Phase
import DynamicDns.Proofs.Run.Estate

/-!
# What a provider pass makes of an estate

Where nothing fails, one pass over a provider settles it: the two addresses are the public one, all
three conditions hold, and the account serves the address. The pass leaves all other objects and
accounts as they are, and where the provider was settled before it stirs nothing (`provider_upkeeps`).
-/

namespace DynamicDns

open Pass

variable {δ κ : Type}

namespace Provider

def Supplied (ip : String) (r : Provider) : Prop :=
  (r.statusOrInitial.publicIp = ip ∧ r.Unlocked) ∧ r.Equipped

structure Connected (ip : String) (r : Provider) : Prop where
  publicIp : r.statusOrInitial.publicIp = ip
  unlocked : r.Unlocked
  equipped : r.Equipped
  client : r.Reports Condition.typeClient [.hold]

/-- A provider that a pass has nothing to change about, as long as its account serves the address. -/
structure Settled (ip : String) (r : Provider) : Prop extends r.Connected ip where
  providerIp : r.statusOrInitial.providerIp = ip
  generation : r.statusOrInitial.observedGeneration = some r.generation

variable {origin r r' : Provider} {ip type : String} {changes : List Condition.Change} {sent : Nat}
  {more : Bool}

theorem Connected.congr (h : r.Connected ip) (generation : r'.generation = r.generation)
    (spec : r'.spec = r.spec) (status : r'.statusOrInitial = r.statusOrInitial) :
    r'.Connected ip where
  publicIp := status ▸ h.publicIp
  unlocked := h.unlocked.congr generation spec status
  equipped := h.equipped.congr generation spec status
  client := h.client.congr generation status

theorem Settled.congr (h : r.Settled ip) (generation : r'.generation = r.generation)
    (spec : r'.spec = r.spec) (status : r'.statusOrInitial = r.statusOrInitial) :
    r'.Settled ip where
  toConnected := h.toConnected.congr generation spec status
  providerIp := status ▸ h.providerIp
  generation := by rw [status, h.generation, generation]

theorem publicIp_of_records (records : r.Records type changes more r') :
    r'.statusOrInitial.publicIp = r.statusOrInitial.publicIp := by
  obtain ⟨⟨now, rfl⟩, -⟩ := records
  rfl

theorem Supplied.records (h : r.Supplied ip)
    (records : r.Records Condition.typeClient changes more r') : r'.Supplied ip :=
  ⟨⟨(publicIp_of_records records).trans h.1.1, records.unlocked h.1.2 (by decide)⟩,
    records.equipped h.2 (by decide)⟩

theorem Connected.put_providerIp (h : r.Connected ip) (served : String) :
    Provider.Connected ip (r.put (putProviderIp served r.statusOrInitial).1) := by
  obtain ⟨publicIp, unlocked, equipped, client⟩ := h
  exact ⟨publicIp, unlocked, equipped, client⟩

/-- A connected provider whose address is the public one is settled once its generation is noted. -/
theorem Connected.put_generation (h : r.Connected ip) (served : r.statusOrInitial.providerIp = ip) :
    Provider.Settled ip
      (r.put (putProviderGeneration (some r.generation) r.statusOrInitial).1) := by
  obtain ⟨publicIp, unlocked, equipped, client⟩ := h
  exact ⟨⟨publicIp, unlocked, equipped, client⟩, served, rfl⟩

theorem settles_publicIp (origin : Provider) (ip : String) :
    origin.Settles (fun r : Provider => r.statusOrInitial.publicIp = ip)
      (0 + (putPublicIp ip origin.statusOrInitial).2.toNat)
      (origin.put (putPublicIp ip origin.statusOrInitial).1) := by
  have start : origin.Settles (fun _ => True) 0 origin := Resource.Settles.start trivial
  have settles : origin.Settles (fun r : Provider => True ∧ r.statusOrInitial.publicIp = ip) _ _ :=
    start.change (exact_putPublicIp ip) trivial rfl fun already _ => by simp [putPublicIp, already]
  exact settles.imp And.right fun h => ⟨trivial, h⟩

theorem settles_connected (settles : origin.Settles (Provider.Supplied ip) sent r)
    (records : r.Records Condition.typeClient r.creation more r') :
    origin.Settles (Provider.Connected ip) (sent + more.toNat) r' := by
  refine (settles.create records (settles.reached.records records)).imp ?_ ?_
  · rintro ⟨⟨⟨publicIp, unlocked⟩, equipped⟩, client⟩
    exact ⟨publicIp, unlocked, equipped, client⟩
  · rintro ⟨publicIp, unlocked, equipped, client⟩
    exact ⟨⟨⟨publicIp, unlocked⟩, equipped⟩, client⟩

theorem settles_providerIp (settles : origin.Settles (Provider.Connected ip) sent r)
    (served : String) :
    origin.Settles (fun r : Provider => r.Connected ip ∧ r.statusOrInitial.providerIp = served)
      (sent + (putProviderIp served r.statusOrInitial).2.toNat)
      (r.put (putProviderIp served r.statusOrInitial).1) := by
  refine settles.change (exact_putProviderIp served) (settles.reached.put_providerIp served) rfl
    fun already hstatus => ?_
  rw [hstatus]
  simp [putProviderIp, already]

end Provider

/-- Of all that a cluster keeps, no more than one provider has changed. -/
structure Cluster.Upkeep (key : ObjectKey) (before after : Cluster) : Prop where
  kept : after.WellKept
  notifiers : after.notifiers = before.notifiers
  providers : ∀ other, key ≠ other → after.providers.get? other = before.providers.get? other

namespace Estate

variable {world : Surroundings δ} {key : ObjectKey} {start estate : Estate δ κ} {origin : Provider}

theorem survives_upkeep (key : ObjectKey) (before : Cluster) :
    Survives ProviderSpec ProviderStatus key (before.Upkeep key) := by
  rintro cluster r status ⟨kept, notifiers, providers⟩ ⟨stored, found, hmetadata, -⟩ own
  refine ⟨kept.putProvider own ?_, notifiers, fun other hne => ?_⟩
  · rw [Resource.put_metadata, ← hmetadata]
    exact kept.ordered found
  · refine Eq.trans ?_ (providers other hne)
    exact (cluster.stored?_store key other (r.put status)).trans (if_neg hne)

/-- The provider under a key, if there is one, is settled, and its account serves the address. -/
def Upheld (world : Surroundings δ) (key : ObjectKey) (estate : Estate δ κ) : Prop :=
  ∀ r : Provider, estate.cluster.stored? key = some r →
    r.Settled (world.ip key) ∧ estate.accounts key = world.ip key

structure Upkept (world : Surroundings δ) (key : ObjectKey) (start estate : Estate δ κ) : Prop where
  upkeep : start.cluster.Upkeep key estate.cluster
  accounts : ∀ other, key ≠ other → estate.accounts other = start.accounts other
  upheld : estate.Upheld world key
  idle : start.Upheld world key → Since start 0 estate

abbrev Upkeeping (key : ObjectKey) (start : Estate δ κ) (accounts : ObjectKey → String)
    (stirred : Nat) (r : Provider) (estate : Estate δ κ) : Prop :=
  Tended key start accounts (start.cluster.Upkeep key) stirred r estate

/-- The end of a pass over a provider whose account serves the public address. -/
theorem keeps_finish {r : Provider} {n : Nat} {accounts : ObjectKey → String}
    (found : start.cluster.stored? key = some origin) (hmetadata : r.metadata = origin.metadata)
    (connected : r.Connected (world.ip key)) (providerIp : r.statusOrInitial.providerIp = world.ip key)
    (idle : origin.Settled (world.ip key) → start.accounts key = world.ip key →
      n = 0 ∧ r.statusOrInitial = origin.statusOrInitial)
    (upkeeping : Upkeeping key start accounts n r estate)
    (served : accounts = Function.update start.accounts key (world.ip key)) :
    (do
      let _ ← patchStatus (putProviderGeneration (some (← get).generation))
      return .requeue (← get).spec.retrySeconds : Pass δ κ Provider Next).Keeps
      (rules κ world key) (fun _ _ estate' => Upkept world key start estate') r estate := by
  refine keeps_get_bind (Keeps.bind ((follows_tended (survives_upkeep key _) _ n).change
    (exact_putProviderGeneration _) upkeeping) ?_)
  rintro _ r' estate' ⟨hr', upkeeping'⟩
  refine keeps_get_bind (keeps_pure ⟨upkeeping'.along, fun other hne => ?_, ?_, fun upheld => ?_⟩)
  · rw [upkeeping'.accounts, served, Function.update_of_ne (Ne.symm hne)]
  · intro stored found'
    have settled : r'.Settled (world.ip key) := by
      rw [hr']
      exact connected.put_generation providerIp
    obtain ⟨generation, spec, status⟩ := upkeeping'.holds.agrees found'
    refine ⟨settled.congr generation spec status, ?_⟩
    rw [upkeeping'.accounts, served, Function.update_self]
  · obtain ⟨settled, hserved⟩ := upheld origin found
    obtain ⟨rfl, hstatus⟩ := idle settled hserved
    have hgeneration : r.statusOrInitial.observedGeneration = some r.generation := by
      rw [hstatus, settled.generation, Resource.generation, Resource.generation, hmetadata]
    have since := upkeeping'.since
    simpa [putProviderGeneration, hgeneration] using since

theorem keeps_compare {r : Provider} {n : Nat} {client : δ} (owner : world.owner client = key)
    (found : start.cluster.stored? key = some origin)
    (settles : origin.Settles (Provider.Connected (world.ip key)) n r)
    (upkeeping : Upkeeping key start start.accounts n r estate) :
    (do
      let served ← proceedCounting Metrics.dnsFailure .client
        "failed to read IP from DNS provider" (← ask (.getIp client))
      let _ ← patchStatus (putProviderIp served)
      if world.ip key ≠ served then
        proceedCounting Metrics.dnsFailure .client "failed to update IP at DNS provider"
          (← ask (.setIp client (world.ip key)))
        ask (.record (.addressPushed key))
        let _ ← patchStatus (putProviderIp (world.ip key))
      let _ ← patchStatus (putProviderGeneration (some (← get).generation))
      return .requeue (← get).spec.retrySeconds : Pass δ κ Provider Next).Keeps
      (rules κ world key) (fun _ _ estate' => Upkept world key start estate') r estate := by
  have survives := survives_upkeep key start.cluster
  refine keeps_ask_bind trivial fun reply estate₁ serves₁ => ?_
  have upkeeping₁ : Upkeeping key start start.accounts n r estate₁ :=
    upkeeping.asks serves₁ fun _ => rfl
  have hserved : reply = .ok (start.accounts key) := by
    rw [serves₁.furnished, upkeeping.accounts, owner]
  obtain rfl := hserved
  refine keeps_proceedCounting_ok ?_
  refine Keeps.bind ((follows_tended survives _ _).change
    (exact_putProviderIp (start.accounts key)) upkeeping₁) ?_
  rintro _ r₂ estate₂ ⟨hr₂, upkeeping₂⟩
  have settles₂ := Provider.settles_providerIp settles (start.accounts key)
  rw [← hr₂] at settles₂
  by_cases hsame : world.ip key = start.accounts key
  · rw [if_neg fun h => h hsame]
    refine keeps_finish found settles₂.metadata settles₂.reached.1
      (settles₂.reached.2.trans hsame.symm) (fun settled _ => ?_) upkeeping₂
      (by rw [hsame, Function.update_eq_self])
    exact settles₂.idle ⟨settled.toConnected, settled.providerIp.trans hsame⟩
  · rw [if_pos hsame]
    refine keeps_ask_bind trivial fun reply estate₃ serves₃ => ?_
    have upkeeping₃ := upkeeping₂.asks serves₃ fun _ => rfl
    obtain rfl : reply = .ok () := serves₃.furnished
    refine keeps_proceedCounting_ok (keeps_ask_bind trivial fun _ estate₄ serves₄ => ?_)
    have upkeeping₄ := upkeeping₃.asks serves₄ fun _ => rfl
    refine Keeps.bind ((follows_tended survives _ _).change (exact_putProviderIp (world.ip key))
      upkeeping₄) ?_
    rintro _ r₅ estate₅ ⟨hr₅, upkeeping₅⟩
    have connected : r₅.Connected (world.ip key) := by
      rw [hr₅]
      exact settles₂.reached.1.put_providerIp _
    refine keeps_finish found ?_ connected ?_ (fun _ served => absurd served.symm hsame)
      upkeeping₅ ?_
    · rw [hr₅, Resource.put_metadata, settles₂.metadata]
    · rw [hr₅]
      rfl
    · rw [← owner]
      rfl

theorem keeps_overProvider (found : start.cluster.stored? key = some origin)
    (upkeeping : Upkeeping key start start.accounts 0 origin estate) :
    (overProvider key : Pass δ κ Provider Next).Keeps (rules κ world key)
      (fun _ _ estate => Upkept world key start estate) origin estate := by
  have survives := survives_upkeep key start.cluster
  refine keeps_get_bind (keeps_ask_bind trivial fun reply estate₁ serves₁ => ?_)
  have upkeeping₁ : Upkeeping key start start.accounts 0 origin estate₁ :=
    upkeeping.asks serves₁ fun _ => rfl
  obtain rfl : reply = .ok (world.ip key) := serves₁.furnished
  refine keeps_proceedCounting_ok ?_
  refine Keeps.bind ((follows_tended survives _ _).change (exact_putPublicIp (world.ip key))
    upkeeping₁) ?_
  rintro _ _ estate₂ ⟨rfl, upkeeping₂⟩
  have settles₂ := Provider.settles_publicIp origin (world.ip key)
  refine Keeps.bind (keeps_unlocked survives settles₂ upkeeping₂ fun changes more r' records => ?_) ?_
  · exact (Provider.publicIp_of_records records).trans settles₂.reached
  rintro secret r₃ estate₃ ⟨n₃, settles₃, upkeeping₃⟩
  refine Keeps.bind (keeps_equipped survives settles₃ upkeeping₃ fun changes more r' records => ?_) ?_
  · exact ⟨(Provider.publicIp_of_records records).trans settles₃.reached.1,
      records.unlocked settles₃.reached.2 (by decide)⟩
  rintro configMap r₄ estate₄ ⟨n₄, settles₄, upkeeping₄⟩
  refine keeps_get_bind (keeps_ask_bind trivial fun reply estate₅ serves₅ => ?_)
  have upkeeping₅ : Upkeeping key start start.accounts n₄ r₄ estate₅ :=
    upkeeping₄.asks serves₅ fun _ => rfl
  obtain ⟨client, rfl, howner⟩ := serves₅.furnished
  refine Keeps.bind ((follows_tended survives _ _).recordCreation client upkeeping₅) ?_
  rintro client r₆ estate₆ ⟨rfl, more₆, records₆, upkeeping₆⟩
  have settles₆ := Provider.settles_connected settles₄ records₆
  exact keeps_compare howner found settles₆ upkeeping₆

/-- A pass over a provider, where nothing fails, leaves it settled. -/
theorem provider_upkeeps (kept : start.cluster.WellKept) :
    (Pass.provider key : Calling δ κ Outcome).Obeys (rules κ world key)
      (fun _ estate => Upkept world key start estate) start := by
  refine ⟨trivial, fun reply estate serves => ?_⟩
  have upkeep : start.cluster.Upkeep key start.cluster := ⟨kept, rfl, fun _ _ => rfl⟩
  obtain ⟨hcluster, haccounts⟩ := serves.still rfl
  obtain ⟨outside, hanswer⟩ := serves.answered
  have hread : reply = .ok (start.cluster.stored? key) := (Prod.mk.inj hanswer).1.symm
  subst hread
  cases found : (start.cluster.stored? key : Option Provider) with
  | none =>
    refine ⟨hcluster ▸ upkeep, fun _ _ => congrFun haccounts _, fun r found' => ?_, fun _ => ?_⟩
    · rw [hcluster, found] at found'
      cases found'
    · exact (Since.refl start).serves serves
  | some origin =>
    have upkeeping : Upkeeping key start start.accounts 0 origin estate :=
      (tended_start found (kept.providers.keyOf_of_get? found) upkeep).asks serves fun _ => rfl
    exact (keeps_overProvider found upkeeping).obeys (fun _ _ _ upkept => upkept) fun _ _ h => h.elim

end Estate

end DynamicDns
