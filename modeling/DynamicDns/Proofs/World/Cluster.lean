import DynamicDns.Proofs.Marker.Keys
import DynamicDns.Proofs.Resource.Patched
import DynamicDns.Proofs.World.Shelf

/-!
# What patches do to a cluster

Two views of a cluster matter for announcements: the address that a provider is marked with for a
notifier, and whether a notifier is ready. The operator patches a cluster in three ways, and for
each of them the lemmas here say what becomes of the two views.
-/

namespace DynamicDns

def ObjectKey.marker (key : ObjectKey) : Marker := ⟨key.name, key.ns⟩

theorem ObjectKey.eq_of_marker_eq {a b : ObjectKey} (h : a.marker = b.marker) : a = b := by
  obtain ⟨ns, name⟩ := a
  obtain ⟨ns', name'⟩ := b
  cases h
  rfl

theorem Marker.ofNotifier_eq {notifier : Notifier} {key : ObjectKey} (h : notifier.key = key) :
    Marker.ofNotifier notifier = key.marker := by
  subst h
  rfl

namespace Cluster

/-- Every object stands under its own key, in the order of the keys, and annotations are in the order
of theirs. -/
structure WellKept (cluster : Cluster) : Prop where
  providers : cluster.providers.Kept Resource.key
  notifiers : cluster.notifiers.Kept Resource.key
  annotations : ∀ entry ∈ cluster.providers, entry.2.metadata.Ordered

/-- The address of a provider that was last announced to a notifier. -/
def marked (cluster : Cluster) (notifier provider : ObjectKey) : Option String :=
  (cluster.providers.get? provider).bind (·.announcedTo notifier.marker)

def isReady (cluster : Cluster) (notifier : ObjectKey) : Bool :=
  (cluster.notifiers.get? notifier).any (·.statusOrInitial.isReady)

variable {cluster cluster' : Cluster}

namespace WellKept

theorem ordered (kept : cluster.WellKept) {key : ObjectKey} {provider : Provider}
    (h : cluster.providers.get? key = some provider) : provider.metadata.Ordered :=
  kept.annotations _ (Shelf.mem_of_get? h)

theorem putProvider (kept : cluster.WellKept) {key : ObjectKey} {provider : Provider}
    (own : provider.key = key) (ordered : provider.metadata.Ordered) :
    ({ cluster with providers := cluster.providers.put key provider } : Cluster).WellKept := by
  refine ⟨kept.providers.put own, kept.notifiers, fun entry hentry => ?_⟩
  rcases Shelf.mem_put hentry with rfl | hentry
  · exact ordered
  · exact kept.annotations entry hentry

theorem putNotifier (kept : cluster.WellKept) {key : ObjectKey} {notifier : Notifier}
    (own : notifier.key = key) :
    ({ cluster with notifiers := cluster.notifiers.put key notifier } : Cluster).WellKept :=
  ⟨kept.providers, kept.notifiers.put own, kept.annotations⟩

end WellKept

theorem marked_putProvider (cluster : Cluster) (key notifier other : ObjectKey)
    (provider : Provider) :
    ({ cluster with providers := cluster.providers.put key provider } : Cluster).marked
        notifier other =
      if key = other then provider.announcedTo notifier.marker else cluster.marked notifier other := by
  rw [marked, Shelf.get?_put]
  split <;> rfl

theorem isReady_putNotifier (cluster : Cluster) (key other : ObjectKey) (notifier : Notifier) :
    ({ cluster with notifiers := cluster.notifiers.put key notifier } : Cluster).isReady other =
      if key = other then notifier.statusOrInitial.isReady else cluster.isReady other := by
  rw [isReady, Shelf.get?_put]
  split <;> rfl

theorem patch_provider_eq_ok {key : ObjectKey} {change : Json}
    (h : cluster.patch .provider key change = .ok cluster') :
    ∃ provider provider', cluster.providers.get? key = some provider ∧
      patched? provider change = some provider' ∧
      cluster' = { cluster with providers := cluster.providers.put key provider' } := by
  rw [patch] at h
  cases hshelf : cluster.providers.patch key change with
  | error e =>
    rw [hshelf] at h
    cases h
  | ok shelf =>
    rw [hshelf] at h
    cases h
    obtain ⟨provider, provider', hfound, hpatched, rfl⟩ := Shelf.patch_eq_ok hshelf
    exact ⟨provider, provider', hfound, hpatched, rfl⟩

theorem patch_notifier_eq_ok {key : ObjectKey} {change : Json}
    (h : cluster.patch .notifier key change = .ok cluster') :
    ∃ notifier notifier', cluster.notifiers.get? key = some notifier ∧
      patched? notifier change = some notifier' ∧
      cluster' = { cluster with notifiers := cluster.notifiers.put key notifier' } := by
  rw [patch] at h
  cases hshelf : cluster.notifiers.patch key change with
  | error e =>
    rw [hshelf] at h
    cases h
  | ok shelf =>
    rw [hshelf] at h
    cases h
    obtain ⟨notifier, notifier', hfound, hpatched, rfl⟩ := Shelf.patch_eq_ok hshelf
    exact ⟨notifier, notifier', hfound, hpatched, rfl⟩

/-! ### Status patches -/

theorem patch_providerStatus (kept : cluster.WellKept) {key : ObjectKey} {change : Json}
    (h : cluster.patch .provider key (Json.object [("status", change)]) = .ok cluster') :
    cluster'.WellKept ∧ cluster'.marked = cluster.marked ∧ cluster'.isReady = cluster.isReady := by
  obtain ⟨provider, provider', hfound, hpatched, rfl⟩ := patch_provider_eq_ok h
  have hmetadata := Resource.metadata_of_patched? hpatched
  have hkey : provider'.key = key := by
    rw [Resource.key, hmetadata]
    exact kept.providers.keyOf_of_get? hfound
  refine ⟨kept.putProvider hkey (by rw [hmetadata]; exact kept.ordered hfound), ?_, rfl⟩
  funext notifier other
  rw [marked_putProvider]
  by_cases hother : key = other
  · rw [if_pos hother, ← hother, marked, hfound, Option.bind_some, Provider.announcedTo,
      Provider.announced, hmetadata]
    rfl
  · rw [if_neg hother]

/-- A status patch of a notifier moves the readiness of that notifier alone, where it says so. -/
theorem patch_notifierStatus (kept : cluster.WellKept) {key : ObjectKey}
    {before : Option NotifierStatus} {after : NotifierStatus}
    (h : cluster.patch .notifier key (Pass.statusPatch before after) = .ok cluster') :
    cluster'.WellKept ∧ cluster'.marked = cluster.marked ∧
      ∀ other, cluster'.isReady other =
        if key = other ∧ ¬before.any (·.isReady = after.isReady) then after.isReady
        else cluster.isReady other := by
  obtain ⟨notifier, notifier', hfound, hpatched, rfl⟩ := patch_notifier_eq_ok h
  have hkey : notifier'.key = key := by
    rw [Resource.key, Resource.metadata_of_patched? hpatched]
    exact kept.notifiers.keyOf_of_get? hfound
  refine ⟨kept.putNotifier hkey, rfl, fun other => ?_⟩
  rw [isReady_putNotifier, Notifier.isReady_of_statusPatch hpatched]
  by_cases hother : key = other
  · subst other
    by_cases hsame : before.any (·.isReady = after.isReady)
    · rw [if_pos rfl, if_pos hsame, if_neg fun h => h.2 hsame, isReady, hfound]
      rfl
    · rw [if_pos rfl, if_neg hsame, if_pos ⟨rfl, hsame⟩]
  · rw [if_neg hother, if_neg fun h => hother h.1]

/-! ### Marker patches -/

/-- A marker patch moves the marker of one notifier on one provider. -/
theorem patch_marker (kept : cluster.WellKept) {key : ObjectKey} {marker : Marker} {ip : String}
    (h : cluster.patch .provider key (marker.patch ip) = .ok cluster') :
    cluster'.WellKept ∧ cluster'.isReady = cluster.isReady ∧
      ∀ notifier : ObjectKey, notifier.marker.Plain → ∀ other, cluster'.marked notifier other =
        if key = other ∧ marker = notifier.marker then some ip
        else cluster.marked notifier other := by
  obtain ⟨provider, provider', hfound, hpatched, rfl⟩ := patch_provider_eq_ok h
  have hmetadata := Resource.metadata_of_markerPatch hpatched
  have hordered := kept.ordered hfound
  have hordered' : provider'.metadata.Ordered := by
    rw [hmetadata]
    exact hordered.annotated _ _
  have hkey : provider'.key = key := by
    rw [← kept.providers.keyOf_of_get? hfound, Resource.key, hmetadata]
    rfl
  refine ⟨kept.putProvider hkey hordered', rfl, fun notifier plain other => ?_⟩
  rw [marked_putProvider]
  by_cases hother : key = other
  · subst other
    rw [if_pos rfl, Provider.announcedTo_annotated hordered plain.toProper hmetadata, marked, hfound,
      Option.bind_some]
    by_cases hmarker : marker = notifier.marker
    · rw [if_pos (congrArg Marker.key hmarker), if_pos ⟨rfl, hmarker⟩]
    · rw [if_neg fun h => hmarker (plain.eq_of_key_eq h), if_neg fun h => hmarker h.2]
  · rw [if_neg hother, if_neg fun h => hother h.1]

end Cluster

end DynamicDns
