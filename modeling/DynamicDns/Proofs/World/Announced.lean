import DynamicDns.Pass.Notifier
import DynamicDns.Proofs.World.Stored

/-!
# What is still to be announced

A notifier is told of the providers that refer to it, one after the other, and each is marked once it
was told of. In between the cluster owes the notifier the rest of them (`Cluster.Owes`). Marking is all
that is done to providers while a notifier is briefed, so whatever does not look at the marks of that
notifier finds them as they were (`Cluster.Briefing`).
-/

namespace DynamicDns

open Pass (pending?)

def Provider.bare (provider : Provider) : Provider :=
  { provider with metadata := { provider.metadata with annotations := none } }

/-- What does not look at marks finds providers alike that are alike without them. -/
theorem Provider.eq_of_bare {β : Type} {a b : Provider} (view : Provider → β)
    (blind : ∀ provider, view provider.bare = view provider) (h : a.bare = b.bare) :
    view a = view b :=
  (blind a).symm.trans ((congrArg view h).trans (blind b))

theorem pending?_eq_some {marker : Marker} {provider : Provider} {ip : String}
    (h : pending? marker provider = some ip) :
    provider.statusOrInitial.providerIp = ip ∧ provider.announcedTo marker ≠ some ip := by
  rw [pending?] at h
  split at h
  · cases h
  · rename_i hpending
    cases h
    exact ⟨rfl, fun hannounced => hpending (.inr hannounced)⟩

theorem pending?_eq_none {marker : Marker} {provider : Provider} :
    pending? marker provider = none ↔ (provider.statusOrInitial.providerIp ≠ "" →
      provider.announcedTo marker = some provider.statusOrInitial.providerIp) := by
  rw [pending?, ite_eq_left_iff]
  simp [← or_iff_not_imp_left]

namespace Cluster

variable {scope : Option String} {notifier : ObjectKey} {cluster cluster' : Cluster}
  {provider : Provider} {rest : List Provider}

/-! ### What is owed -/

/-- A notifier is still to be told of some of the providers that are listed and refer to it; of all
others it was told. -/
structure Owes (scope : Option String) (notifier : ObjectKey) (rest : List Provider)
    (cluster : Cluster) : Prop where
  listed : ∀ provider ∈ rest, cluster.providers.get? provider.key = some provider
  apart : rest.Pairwise fun a b => a.key ≠ b.key
  others : ∀ key provider, cluster.providers.get? key = some provider →
    (scope.all fun ns => ns = provider.key.ns) = true → provider.refersTo notifier = true →
      provider.statusOrInitial.providerIp ≠ "" → (∃ next ∈ rest, next.key = key) ∨
        cluster.marked notifier key = some provider.statusOrInitial.providerIp

theorem owes_listed (kept : cluster.WellKept) (scope : Option String) (notifier : ObjectKey) :
    cluster.Owes scope notifier
      ((cluster.providers.values.filter fun provider =>
        scope.all fun ns => ns = provider.key.ns).filter fun provider =>
          provider.refersTo notifier) := by
  refine ⟨fun provider h => ?_, ?_, fun key provider found hscope hrefers _ => .inl ?_⟩
  · exact kept.providers.get?_of_mem_values (List.mem_filter.1 (List.mem_filter.1 h).1).1
  · exact (kept.providers.values_pairwise.filter _).filter _
  · have hlisted : provider ∈ cluster.providers.values :=
      List.mem_map.2 ⟨(key, provider), Shelf.mem_of_get? found, rfl⟩
    refine ⟨provider, List.mem_filter.2 ⟨List.mem_filter.2 ⟨hlisted, hscope⟩, hrefers⟩, ?_⟩
    exact kept.providers.keyOf_of_get? found

theorem Owes.skip (owes : cluster.Owes scope notifier (provider :: rest))
    (h : pending? notifier.marker provider = none) : cluster.Owes scope notifier rest := by
  have found := owes.listed provider List.mem_cons_self
  refine ⟨fun next hnext => owes.listed next (List.mem_cons_of_mem _ hnext),
    (List.pairwise_cons.1 owes.apart).2, fun key other found' hscope hrefers haddress => ?_⟩
  rcases owes.others key other found' hscope hrefers haddress with ⟨next, hnext, rfl⟩ | hmarked
  · rcases List.mem_cons.1 hnext with rfl | hnext
    · obtain rfl : next = other := Option.some.inj (found.symm.trans found')
      refine .inr ?_
      rw [marked, found, Option.bind_some]
      exact pending?_eq_none.1 h haddress
    · exact .inl ⟨next, hnext, rfl⟩
  · exact .inr hmarked

theorem Owes.pending?_eq_none (owes : cluster.Owes scope notifier [])
    (found : cluster.providers.get? provider.key = some provider)
    (hscope : (scope.all fun ns => ns = provider.key.ns) = true)
    (hrefers : provider.refersTo notifier = true) : pending? notifier.marker provider = none := by
  refine DynamicDns.pending?_eq_none.2 fun haddress => ?_
  rcases owes.others provider.key provider found hscope hrefers haddress with ⟨_, h, -⟩ | hmarked
  · cases h
  · rw [marked, found, Option.bind_some] at hmarked
    exact hmarked

/-! ### Marking -/

/-- What a pass over a notifier leaves as it is: other notifiers, and providers up to their marks for
that notifier. -/
structure Briefing (notifier : ObjectKey) (before after : Cluster) : Prop where
  kept : after.WellKept
  stays : (after.notifiers.get? notifier).isSome = (before.notifiers.get? notifier).isSome
  notifiers : ∀ other, notifier ≠ other → after.notifiers.get? other = before.notifiers.get? other
  bare : ∀ key, (after.providers.get? key).map Provider.bare =
    (before.providers.get? key).map Provider.bare
  marked : ∀ other : ObjectKey, other.marker.Plain → notifier ≠ other →
    after.marked other = before.marked other

theorem Briefing.refl (kept : cluster.WellKept) (notifier : ObjectKey) :
    cluster.Briefing notifier cluster :=
  ⟨kept, rfl, fun _ _ => rfl, fun _ => rfl, fun _ _ _ => rfl⟩

theorem exists_mark (found : cluster.providers.get? provider.key = some provider) (marker : Marker)
    (ip : String) : ∃ provider' : Provider,
      cluster.patch .provider provider.key (marker.patch ip) =
          .ok (cluster.store provider.key provider') ∧ provider'.bare = provider.bare := by
  obtain ⟨annotations, hpatch⟩ := patch_markerPatch found marker ip
  exact ⟨_, hpatch, rfl⟩

variable {before : Cluster} {provider' : Provider} {ip : String}

theorem Briefing.mark (briefing : before.Briefing notifier cluster)
    (found : cluster.providers.get? provider.key = some provider)
    (hpatch : cluster.patch .provider provider.key (notifier.marker.patch ip) =
      .ok (cluster.store provider.key provider'))
    (bare : provider'.bare = provider.bare) :
    before.Briefing notifier (cluster.store provider.key provider') := by
  obtain ⟨kept, -, hmarked⟩ := patch_marker briefing.kept hpatch
  refine ⟨kept, briefing.stays, briefing.notifiers, fun key => ?_, fun other plain hne => ?_⟩
  · rw [← briefing.bare key]
    have hstore := cluster.stored?_store provider.key key provider'
    by_cases hkey : provider.key = key
    · rw [if_pos hkey] at hstore
      rw [← hkey, found]
      rw [← hkey] at hstore
      exact (congrArg (Option.map Provider.bare) hstore).trans (congrArg some bare)
    · rw [if_neg hkey] at hstore
      exact congrArg (Option.map Provider.bare) hstore
  · rw [← briefing.marked other plain hne]
    funext key
    rw [hmarked other plain, if_neg]
    rintro ⟨-, hmarker⟩
    obtain ⟨ns, name⟩ := notifier
    obtain ⟨ns', name'⟩ := other
    obtain ⟨rfl, rfl⟩ := Marker.mk.inj hmarker
    exact hne rfl

theorem Owes.mark (kept : cluster.WellKept) (plain : notifier.marker.Plain)
    (owes : cluster.Owes scope notifier (provider :: rest))
    (pending : pending? notifier.marker provider = some ip)
    (hpatch : cluster.patch .provider provider.key (notifier.marker.patch ip) =
      .ok (cluster.store provider.key provider'))
    (bare : provider'.bare = provider.bare) :
    (cluster.store provider.key provider').Owes scope notifier rest := by
  obtain ⟨-, -, hmarked⟩ := patch_marker kept hpatch
  obtain ⟨apart, others⟩ := List.pairwise_cons.1 owes.apart
  refine ⟨fun next hnext => ?_, others, fun key other found' hscope hrefers haddress => ?_⟩
  · have hstore := cluster.stored?_store provider.key next.key provider'
    rw [if_neg (apart next hnext)] at hstore
    exact hstore.trans (owes.listed next (List.mem_cons_of_mem _ hnext))
  · have hstore := cluster.stored?_store provider.key key provider'
    rw [hmarked notifier plain]
    by_cases hkey : provider.key = key
    · rw [if_pos hkey] at hstore
      obtain rfl : other = provider' := Option.some.inj (found'.symm.trans hstore)
      have hstatus : other.statusOrInitial = provider.statusOrInitial :=
        Provider.eq_of_bare (·.statusOrInitial) (fun _ => rfl) bare
      rw [if_pos ⟨hkey, rfl⟩, hstatus]
      exact .inr (congrArg some (pending?_eq_some pending).1.symm)
    · rw [if_neg hkey] at hstore
      rw [if_neg fun h => hkey h.1]
      refine (owes.others key other (hstore.symm.trans found') hscope hrefers haddress).imp_left ?_
      rintro ⟨next, hnext, hnextKey⟩
      rcases List.mem_cons.1 hnext with rfl | hnext
      · exact absurd hnextKey hkey
      · exact ⟨next, hnext, hnextKey⟩

/-! ### What others find -/

theorem Briefing.found (briefing : before.Briefing notifier cluster) {key : ObjectKey}
    (found : cluster.providers.get? key = some provider) :
    ∃ provider', before.providers.get? key = some provider' ∧ provider'.bare = provider.bare := by
  have hbare := briefing.bare key
  rw [found] at hbare
  exact Option.map_eq_some_iff.1 hbare.symm

theorem Briefing.owes (briefing : before.Briefing notifier cluster) {other : ObjectKey}
    (hne : notifier ≠ other) (plain : other.marker.Plain) (owes : before.Owes scope other []) :
    cluster.Owes scope other [] := by
  refine ⟨fun _ h => absurd h List.not_mem_nil, List.Pairwise.nil,
    fun key provider found hscope hrefers haddress => ?_⟩
  obtain ⟨provider', found', bare⟩ := briefing.found found
  have hstatus : provider'.statusOrInitial = provider.statusOrInitial :=
    Provider.eq_of_bare (·.statusOrInitial) (fun _ => rfl) bare
  have hkey : provider'.key = provider.key := Provider.eq_of_bare (·.key) (fun _ => rfl) bare
  have hrefers' : provider'.refersTo other = provider.refersTo other :=
    Provider.eq_of_bare (·.refersTo other) (fun _ => rfl) bare
  rw [briefing.marked other plain hne, ← hstatus]
  exact owes.others key provider' found' (hkey ▸ hscope) (hrefers'.trans hrefers) (hstatus ▸ haddress)

end Cluster

end DynamicDns
