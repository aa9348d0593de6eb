import DynamicDns.Proofs.Run.Estate
import DynamicDns.Proofs.World.Announced

/-!
# What a notifier pass makes of an estate

Where nothing fails, a pass over a notifier that is not ready greets it, and then it is ready. A pass
over a ready one tells it of each provider that it was not told of, and then it is settled, and owed
nothing. The pass leaves all other objects as they are, but for the marks that it puts on providers,
and where the notifier was settled and owed nothing before it stirs nothing (`notifier_briefs`).
-/

namespace DynamicDns

open Pass

variable {δ κ : Type}

namespace Notifier

structure Reachable (ready : Bool) (r : Notifier) : Prop where
  ready : r.statusOrInitial.isReady = ready
  declared : r.Declared
  unlocked : r.Unlocked
  equipped : r.Equipped
  client : r.Reports Condition.typeClient [.hold]

/-- A notifier that a pass has nothing to change about, as long as it is owed nothing. -/
structure Settled (r : Notifier) : Prop extends r.Reachable true where
  generation : r.statusOrInitial.observedGeneration = some r.generation

variable {ready : Bool} {r : Notifier}

theorem Settled.congr {r' : Notifier} (h : r.Settled) (generation : r'.generation = r.generation)
    (spec : r'.spec = r.spec) (status : r'.statusOrInitial = r.statusOrInitial) :
    Notifier.Settled r' where
  ready := status ▸ h.ready
  declared := h.declared.congr status
  unlocked := h.unlocked.congr generation spec status
  equipped := h.equipped.congr generation spec status
  client := h.client.congr generation status
  generation := by rw [status, h.generation, generation]

theorem Reachable.recorded (reachable : r.Reachable ready) (now : String)
    {changes : List Condition.Change}
    (client : (r.recorded now Condition.typeClient changes).Reports Condition.typeClient [.hold]) :
    Reachable ready (r.recorded now Condition.typeClient changes) where
  ready := reachable.ready
  declared := reachable.declared.recorded now _ changes
  unlocked := reachable.unlocked.recorded (by decide) now changes
  equipped := reachable.equipped.recorded (by decide) now changes
  client := client

theorem Reachable.greeted (reachable : r.Reachable ready) :
    Reachable true (r.put { r.statusOrInitial with isReady := true }) :=
  ⟨rfl, reachable.declared, reachable.unlocked, reachable.equipped, reachable.client⟩

end Notifier

namespace Estate

variable {world : Surroundings δ} {key : ObjectKey} {start estate estate' : Estate δ κ}
  {origin r : Notifier} {n : Nat}

def Greeted (key : ObjectKey) (estate : Estate δ κ) : Prop :=
  ∀ r : Notifier, estate.cluster.stored? key = some r → r.statusOrInitial.isReady = true

/-- The notifier under a key, if there is one, is settled and owed nothing. -/
def Informed (world : Surroundings δ) (key : ObjectKey) (estate : Estate δ κ) : Prop :=
  ∀ r : Notifier, estate.cluster.stored? key = some r →
    r.Settled ∧ estate.cluster.Owes world.scope key []

theorem Informed.greeted (informed : estate.Informed world key) : estate.Greeted key :=
  fun r found => (informed r found).1.ready

structure Briefed (world : Surroundings δ) (key : ObjectKey) (start estate : Estate δ κ) :
    Prop where
  briefing : start.cluster.Briefing key estate.cluster
  accounts : estate.accounts = start.accounts
  greeted : estate.Greeted key
  informed : start.Greeted key → estate.Informed world key
  idle : start.Informed world key → Since start 0 estate

/-! ### What is known while a pass goes on -/

structure Telling (world : Surroundings δ) (key : ObjectKey) (rest : List Provider)
    (before cluster : Cluster) : Prop where
  briefing : before.Briefing key cluster
  owes : cluster.Owes world.scope key rest

theorem survives_briefing (key : ObjectKey) (before : Cluster) :
    Survives NotifierSpec NotifierStatus key (before.Briefing key) := by
  rintro cluster r status ⟨kept, stays, notifiers, bare, marked⟩ ⟨stored, found, -⟩ own
  have hstore (other : ObjectKey) : (cluster.store key (r.put status)).notifiers.get? other =
      if key = other then some (r.put status) else cluster.notifiers.get? other :=
    cluster.stored?_store key other (r.put status)
  refine ⟨kept.putNotifier own, ?_, fun other hne => ?_, bare, marked⟩
  · have found : cluster.notifiers.get? key = some stored := found
    rw [hstore, if_pos rfl, ← stays, found]
    rfl
  · rw [hstore, if_neg hne]
    exact notifiers other hne

theorem survives_telling (world : Surroundings δ) (key : ObjectKey) (rest : List Provider)
    (before : Cluster) :
    Survives NotifierSpec NotifierStatus key (Telling world key rest before) := by
  rintro cluster r status ⟨briefing, listed, apart, others⟩ holds own
  exact ⟨survives_briefing key before cluster r status briefing holds own, listed, apart, others⟩

theorem Tended.marks (plain : key.marker.Plain) {provider : Provider} {rest : List Provider}
    {ip : String} {reply : Except Failure Unit}
    (tended : Tended key start start.accounts
      (Telling world key (provider :: rest) start.cluster) n r estate)
    (pending : pending? key.marker provider = some ip)
    (serves : estate.Serves world key (.patchProvider provider.key (key.marker.patch ip)) reply
      estate') :
    reply = .ok () ∧ Tended key start start.accounts
      (Telling world key rest start.cluster) (n + 1) r estate' := by
  have since := tended.since.serves serves
  obtain ⟨-, ⟨outside, hanswer⟩, haccounts, -⟩ := serves
  obtain ⟨holds, own, haccounts', -, briefing, owes⟩ := tended
  have found := owes.listed provider List.mem_cons_self
  obtain ⟨provider', hpatch, bare⟩ := Cluster.exists_mark found key.marker ip
  rw [Cluster.answer, Cluster.patching, hpatch] at hanswer
  obtain ⟨rfl, hcluster⟩ := Prod.mk.inj hanswer
  refine ⟨rfl, ?_, own, haccounts.trans haccounts', since, ?_, ?_⟩
  · rw [← hcluster]
    exact holds
  · rw [← hcluster]
    exact briefing.mark found hpatch bare
  · rw [← hcluster]
    exact owes.mark briefing.kept plain pending hpatch bare

/-! ### The parts of the pass -/

theorem keeps_announce (plain : key.marker.Plain) (channel : κ) {provider : Provider}
    {rest : List Provider} {ip : String} (reachable : r.Reachable true)
    (tended : Tended key start start.accounts
      (Telling world key (provider :: rest) start.cluster) n r estate)
    (pending : pending? key.marker provider = some ip) :
    (announce channel key.marker provider ip : Pass δ κ Notifier Unit).Keeps (rules κ world key)
      (fun _ (r' : Notifier) estate' => r'.Reachable true ∧ ∃ n', Tended key start start.accounts
        (Telling world key rest start.cluster) n' r' estate') r estate := by
  refine keeps_ask_bind trivial fun reply estate₁ serves₁ => ?_
  have tended₁ := tended.asks serves₁ fun _ => rfl
  obtain rfl : reply = .ok () := serves₁.furnished
  refine keeps_ask_bind trivial fun _ estate₂ serves₂ => ?_
  have tended₂ := tended₁.asks serves₂ fun _ => rfl
  refine Keeps.bind ((follows_tended (survives_telling world key _ _) _ _).recordCondition _ _
    tended₂) ?_
  rintro _ r₃ estate₃ ⟨sent, records, tended₃⟩
  have reachable₃ : Notifier.Reachable true r₃ := by
    have client := (records.reports (Condition.settling_holds _ _ _)).hold
    obtain ⟨⟨now, rfl⟩, -⟩ := records
    exact reachable.recorded now client
  refine keeps_ask_bind trivial fun reply estate₄ serves₄ => ?_
  obtain ⟨rfl, tended₄⟩ := tended₃.marks plain pending serves₄
  exact keeps_pure ⟨reachable₃, _, tended₄⟩

/-- A notifier is told of all that it is owed, and where it is owed nothing all stays as it is. -/
theorem keeps_announceAll (plain : key.marker.Plain) (channel : κ) (rest : List Provider)
    (reachable : r.Reachable true)
    (tended : Tended key start start.accounts (Telling world key rest start.cluster) n r estate) :
    (announceAll channel key.marker rest : Pass δ κ Notifier Unit).Keeps (rules κ world key)
      (fun _ (r' : Notifier) estate' => r'.Reachable true ∧ ∃ n',
        Tended key start start.accounts (Telling world key [] start.cluster) n' r' estate' ∧
          ((∀ provider ∈ rest, pending? key.marker provider = none) → n' = n ∧ r' = r))
      r estate := by
  induction rest generalizing n r estate with
  | nil => exact keeps_pure ⟨reachable, n, tended, fun _ => ⟨rfl, rfl⟩⟩
  | cons provider rest ih =>
    rw [announceAll]
    cases hpending : pending? key.marker provider with
    | none =>
      have tended' : Tended key start start.accounts (Telling world key rest start.cluster) n r
          estate :=
        { tended with along := ⟨tended.along.briefing, tended.along.owes.skip hpending⟩ }
      refine Keeps.mono (ih reachable tended') ?_
      rintro _ r' estate' ⟨reachable', n', tended'', idle⟩
      exact ⟨reachable', n', tended'', fun h => idle fun next hnext =>
        h next (List.mem_cons_of_mem _ hnext)⟩
    | some ip =>
      refine Keeps.bind (keeps_announce plain channel reachable tended hpending) ?_
      rintro _ r₁ estate₁ ⟨reachable₁, n₁, tended₁⟩
      refine Keeps.mono (ih reachable₁ tended₁) ?_
      rintro _ r' estate' ⟨reachable', n', tended', -⟩
      refine ⟨reachable', n', tended', fun h => ?_⟩
      rw [h provider List.mem_cons_self] at hpending
      cases hpending

theorem keeps_greet (channel : κ) (reachable : r.Reachable false)
    (tended : Tended key start start.accounts (start.cluster.Briefing key) n r estate) :
    (greet channel : Pass δ κ Notifier Unit).Keeps (rules κ world key)
      (fun _ (r' : Notifier) estate' => r'.Reachable true ∧ ∃ n', Tended key start start.accounts
        (start.cluster.Briefing key) n' r' estate') r estate := by
  refine keeps_ask_bind trivial fun reply estate₁ serves₁ => ?_
  have tended₁ := tended.asks serves₁ fun _ => rfl
  obtain rfl : reply = .ok () := serves₁.furnished
  refine keeps_ask_bind trivial fun _ estate₂ serves₂ => ?_
  have tended₂ := tended₁.asks serves₂ fun _ => rfl
  dsimp only
  rw [stamped_bind]
  refine keeps_ask_bind trivial fun now estate₃ serves₃ => keeps_get_bind ?_
  have tended₃ := tended₂.asks serves₃ fun _ => rfl
  refine Keeps.bind ((follows_tended (survives_briefing key _) _ _).change
    ((exact_assign _ _ _).andAlso (exact_putReady true)) tended₃) ?_
  rintro _ r₄ estate₄ ⟨hr₄, tended₄⟩
  refine keeps_pure ⟨?_, _, tended₄⟩
  have client : (r.recorded now Condition.typeClient (holds Wording.clientCommunication
      Wording.communicationsEstablished)).Reports Condition.typeClient [.hold] :=
    (Resource.reports_recorded (Condition.settling_holds _ _ _) now).hold
  rw [hr₄]
  exact (reachable.recorded now client).greeted

theorem keeps_settle (reachable : r.Reachable true)
    (tended : Tended key start start.accounts (Telling world key [] start.cluster) n r estate)
    (idle : start.Informed world key →
      n = 0 ∧ r.statusOrInitial.observedGeneration = some r.generation) :
    (do
      let _ ← patchStatus (putNotifierGeneration (some (← get).generation))
      return .awaitChange : Pass δ κ Notifier Next).Keeps
      (rules κ world key) (fun _ _ estate' => Briefed world key start estate') r estate := by
  refine keeps_get_bind (Keeps.bind ((follows_tended (survives_telling world key _ _) _ n).change
    (exact_putNotifierGeneration _) tended) ?_)
  rintro _ r' estate' ⟨hr', tended'⟩
  have settled : Notifier.Settled r' := by
    obtain ⟨ready, declared, unlocked, equipped, client⟩ := reachable
    rw [hr']
    exact ⟨⟨ready, declared, unlocked, equipped, client⟩, rfl⟩
  have informed : estate'.Informed world key := by
    intro stored found'
    obtain ⟨generation, spec, status⟩ := tended'.holds.agrees found'
    exact ⟨settled.congr generation spec status, tended'.along.owes⟩
  refine keeps_pure ⟨tended'.along.briefing, tended'.accounts, informed.greeted, fun _ => informed,
    fun before => ?_⟩
  obtain ⟨rfl, hobserved⟩ := idle before
  have since := tended'.since
  simpa [putNotifierGeneration, hobserved] using since

theorem keeps_tell (plain : key.marker.Plain) (channel : κ) {rest : List Provider}
    (found : start.cluster.stored? key = some origin) (reachable : r.Reachable true)
    (tended : Tended key start start.accounts (Telling world key rest start.cluster) n r estate)
    (listed : ∀ provider ∈ rest, (world.scope.all fun ns => ns = provider.key.ns) = true ∧
      provider.refersTo key = true)
    (idle : origin.Settled →
      n = 0 ∧ r.statusOrInitial.observedGeneration = some r.generation) :
    (do
      announceAll channel key.marker rest
      let _ ← patchStatus (putNotifierGeneration (some (← get).generation))
      return .awaitChange : Pass δ κ Notifier Next).Keeps
      (rules κ world key) (fun _ _ estate' => Briefed world key start estate') r estate := by
  refine Keeps.bind (keeps_announceAll plain channel rest reachable tended) ?_
  rintro _ r' estate' ⟨reachable', n', tended', quiet⟩
  refine keeps_settle reachable' tended' fun informed => ?_
  obtain ⟨settled, owes⟩ := informed origin found
  obtain ⟨hnone, hobserved⟩ := idle settled
  rw [← (tended.since.still hnone).1] at owes
  obtain ⟨rfl, rfl⟩ := quiet fun provider hprovider => by
    obtain ⟨hscope, hrefers⟩ := listed provider hprovider
    exact owes.pending?_eq_none (tended.along.owes.listed provider hprovider) hscope hrefers
  exact ⟨hnone, hobserved⟩

theorem keeps_overNotifier (plain : key.marker.Plain)
    (found : start.cluster.stored? key = some origin)
    (tended : Tended key start start.accounts (start.cluster.Briefing key) 0 origin estate) :
    (overNotifier key : Pass δ κ Notifier Next).Keeps (rules κ world key)
      (fun _ _ estate => Briefed world key start estate) origin estate := by
  have survives := survives_briefing key start.cluster
  refine Keeps.bind ((follows_tended survives _ 0).ensureDeclared tended) ?_
  rintro _ r₁ estate₁ ⟨more, declares, tended₁⟩
  have settles₀ : origin.Settles (fun r : Notifier =>
      r.statusOrInitial.isReady = origin.statusOrInitial.isReady) 0 origin :=
    Resource.Settles.start rfl
  have settles₁ : origin.Settles (Notifier.Placed origin) _ r₁ :=
    settles₀.declare declares (Notifier.isReady_of_declares declares)
  refine Keeps.bind (keeps_unlocked survives settles₁ tended₁
    fun _ _ _ records => settles₁.reached.records records) ?_
  rintro secret r₂ estate₂ ⟨n₂, settles₂, tended₂⟩
  refine Keeps.bind (keeps_equipped survives settles₂ tended₂ fun _ _ _ records =>
    ⟨settles₂.reached.1.records records, records.unlocked settles₂.reached.2 (by decide)⟩) ?_
  rintro configMap r₃ estate₃ ⟨n₃, settles₃, tended₃⟩
  refine keeps_get_bind (keeps_ask_bind trivial fun reply estate₄ serves₄ => ?_)
  have tended₄ := tended₃.asks serves₄ fun _ => rfl
  obtain ⟨channel, rfl⟩ := serves₄.furnished
  refine Keeps.bind ((follows_tended survives _ _).recordCreation channel tended₄) ?_
  rintro channel r₅ estate₅ ⟨rfl, more₅, records₅, tended₅⟩
  have settles₅ : origin.Settles (Notifier.Reachable origin.statusOrInitial.isReady)
      (n₃ + more₅.toNat) r₅ := by
    refine (settles₃.create records₅ (Notifier.Supplied.records settles₃.reached records₅)).imp ?_ ?_
    · rintro ⟨⟨⟨⟨ready, declared⟩, unlocked⟩, equipped⟩, client⟩
      exact ⟨ready, declared, unlocked, equipped, client⟩
    · rintro ⟨ready, declared, unlocked, equipped, client⟩
      exact ⟨⟨⟨⟨ready, declared⟩, unlocked⟩, equipped⟩, client⟩
  refine keeps_get_bind ?_
  rw [settles₅.reached.ready]
  cases hready : origin.statusOrInitial.isReady with
  | false =>
    have reachable := settles₅.reached
    rw [hready] at reachable
    refine Keeps.bind (keeps_greet channel reachable tended₅) ?_
    rintro _ r₆ estate₆ ⟨reachable₆, n₆, tended₆⟩
    have ungreeted : ¬start.Greeted key := by
      intro greeted
      rw [greeted origin found] at hready
      cases hready
    refine keeps_pure ⟨tended₆.along, tended₆.accounts, fun stored found' => ?_,
      fun greeted => absurd greeted ungreeted, fun informed => absurd informed.greeted ungreeted⟩
    obtain ⟨-, -, status⟩ := tended₆.holds.agrees found'
    rw [status]
    exact reachable₆.ready
  | true =>
    have reachable := settles₅.reached
    rw [hready] at reachable
    refine keeps_get_bind ?_
    rw [Marker.ofNotifier_eq tended₅.own]
    refine keeps_ask_bind trivial fun reply estate₆ serves₆ => ?_
    have tended₆ := tended₅.asks serves₆ fun _ => rfl
    have hlisted : reply = .ok (estate₆.cluster.providers.values.filter fun provider =>
        world.scope.all fun ns => ns = provider.key.ns) := by
      obtain ⟨outside, hanswer⟩ := serves₆.answered
      rw [(serves₆.still rfl).1]
      exact (Prod.mk.inj hanswer).1.symm
    subst hlisted
    refine keeps_tell plain channel found reachable
      { tended₆ with along := ⟨tended₆.along, Cluster.owes_listed tended₆.along.kept _ key⟩ }
      (fun provider hprovider => ?_) fun settled => ?_
    · obtain ⟨hprovider, hrefers⟩ := List.mem_filter.1 hprovider
      exact ⟨(List.mem_filter.1 hprovider).2, hrefers⟩
    · obtain ⟨hnone, hstatus⟩ := settles₅.idle (by rw [hready]; exact settled.toReachable)
      refine ⟨hnone, ?_⟩
      rw [hstatus, settled.generation, settles₅.generation_eq]

/-- A pass over a notifier, where nothing fails, leaves it ready, and owed nothing if it was ready. -/
theorem notifier_briefs (kept : start.cluster.WellKept)
    (plain : ∀ r : Notifier, start.cluster.stored? key = some r → key.marker.Plain) :
    (Pass.notifier key : Calling δ κ Outcome).Obeys (rules κ world key)
      (fun _ estate => Briefed world key start estate) start := by
  refine ⟨trivial, fun reply estate serves => ?_⟩
  have briefing := Cluster.Briefing.refl kept key
  obtain ⟨hcluster, haccounts⟩ := serves.still rfl
  obtain ⟨outside, hanswer⟩ := serves.answered
  have hread : reply = .ok (start.cluster.stored? key) := (Prod.mk.inj hanswer).1.symm
  subst hread
  cases found : (start.cluster.stored? key : Option Notifier) with
  | none =>
    have absent (r : Notifier) (found' : estate.cluster.stored? key = some r) : False := by
      rw [hcluster, found] at found'
      cases found'
    exact ⟨hcluster ▸ briefing, haccounts, fun r found' => (absent r found').elim,
      fun _ r found' => (absent r found').elim, fun _ => (Since.refl start).serves serves⟩
  | some origin =>
    have tended : Tended key start start.accounts (start.cluster.Briefing key) 0 origin estate :=
      (tended_start found (kept.notifiers.keyOf_of_get? found) briefing).asks serves fun _ => rfl
    exact (keeps_overNotifier (plain origin found) found tended).obeys
      (fun _ _ _ briefed => briefed) fun _ _ h => h.elim

end Estate

end DynamicDns
