import DynamicDns.Proofs.Marker.Keys
import DynamicDns.Proofs.World.Stored

/-!
# Markers as a map

A provider is marked with at most one address for each notifier, and its marks are its annotations
under the keys of markers: reading a key and writing it are inverse, so no annotation that reads as a
marker is lost and no two of them are taken for one. A marker patch puts the address of one notifier
and leaves the marks of all others, and all other annotations, as they are (`marks_are_keyed`).
-/

namespace DynamicDns

theorem mem_iff_lookup {α β : Type} [BEq α] [LawfulBEq α] {entries : List (α × β)}
    (distinct : entries.Pairwise fun a b => a.1 ≠ b.1) (key : α) (value : β) :
    (key, value) ∈ entries ↔ entries.lookup key = some value := by
  induction entries with
  | nil => simp
  | cons head rest ih =>
    obtain ⟨k, v⟩ := head
    obtain ⟨first, others⟩ := List.pairwise_cons.1 distinct
    rw [List.mem_cons, List.lookup_cons, ih others]
    by_cases hkey : key = k
    · subst hkey
      have absent : ¬rest.lookup key = some value := fun h =>
        first (key, value) ((ih others).2 h) rfl
      simp [absent, eq_comm]
    · rw [beq_false_of_ne hkey]
      simp [hkey]

namespace Marker

/-! ### Reading and writing keys -/

theorem proper_of_ofKey? {key : String} {marker : Marker} (h : ofKey? key = some marker) :
    marker.Proper := by
  obtain ⟨rest, -, h⟩ := Option.bind_eq_some_iff.1 h
  obtain ⟨⟨name, ns⟩, hsplit, h⟩ := Option.bind_eq_some_iff.1 h
  dsimp only at h
  split at h
  · cases h
  · rename_i hne
    cases h
    rw [not_or] at hne
    refine ⟨by simpa using hne.1, by simpa using hne.2, ?_⟩
    rw [String.toList_ofList]
    exact plain_of_splitLast hsplit

/-- A key reads as a marker exactly if it is the key of that marker, and the marker is proper. -/
theorem ofKey?_eq_some {key : String} {marker : Marker} :
    ofKey? key = some marker ↔ marker.Proper ∧ marker.key = key := by
  constructor
  · exact fun h => ⟨proper_of_ofKey? h, key_of_ofKey? h⟩
  · rintro ⟨proper, rfl⟩
    exact ofKey?_key proper

theorem Proper.eq_of_key_eq {marker other : Marker} (proper : marker.Proper)
    (proper' : other.Proper) (h : other.key = marker.key) : other = marker := by
  have hread := ofKey?_key proper'
  rw [h, ofKey?_key proper] at hread
  exact (Option.some.inj hread).symm

/-! ### The order of markers -/

theorem before_trans {a b c : Marker} (hab : a.before b = true) (hbc : b.before c = true) :
    a.before c = true :=
  ObjectKey.before_trans (a := ⟨a.name, a.ns⟩) (b := ⟨b.name, b.ns⟩) (c := ⟨c.name, c.ns⟩) hab hbc

theorem ne_of_before {a b : Marker} (h : a.before b = true) : a ≠ b := by
  rintro rfl
  exact ObjectKey.ne_of_before (a := ⟨a.name, a.ns⟩) (b := ⟨a.name, a.ns⟩) h rfl

theorem before_of_not {a b : Marker} (hne : a ≠ b) (h : ¬a.before b = true) : b.before a = true := by
  refine ObjectKey.before_of_not (a := ⟨a.name, a.ns⟩) (b := ⟨b.name, b.ns⟩) (fun hkey => hne ?_) h
  obtain ⟨name, ns⟩ := a
  obtain ⟨hname, hns⟩ := ObjectKey.mk.inj hkey
  exact Marker.mk.injEq .. ▸ ⟨hname, hns⟩

def InOrder (found : List (Marker × String)) : Prop :=
  found.Pairwise fun a b => a.1.before b.1 = true

theorem mem_record {marker : Marker} {ip : String} {found : List (Marker × String)}
    {entry : Marker × String} (h : entry ∈ record marker ip found) :
    entry = (marker, ip) ∨ entry ∈ found := by
  induction found with
  | nil => exact .inl (List.mem_singleton.1 h)
  | cons head rest ih =>
    rw [record] at h
    split at h
    · exact (List.mem_cons.1 h).imp_right (List.mem_cons_of_mem _)
    · split at h
      · exact List.mem_cons.1 h
      · rcases List.mem_cons.1 h with rfl | h
        · exact .inr List.mem_cons_self
        · exact (ih h).imp_right (List.mem_cons_of_mem _)

theorem InOrder.record {found : List (Marker × String)} (ordered : InOrder found) (marker : Marker)
    (ip : String) : InOrder (record marker ip found) := by
  induction found with
  | nil => exact List.pairwise_singleton _ _
  | cons head rest ih =>
    obtain ⟨m, text⟩ := head
    obtain ⟨first, others⟩ := List.pairwise_cons.1 ordered
    rw [Marker.record]
    split
    · subst m
      exact List.pairwise_cons.2 ⟨first, others⟩
    · rename_i hne
      split
      · rename_i hbefore
        refine List.pairwise_cons.2 ⟨fun entry hentry => ?_, ordered⟩
        rcases List.mem_cons.1 hentry with rfl | hentry
        · exact hbefore
        · exact before_trans hbefore (first entry hentry)
      · rename_i hafter
        refine List.pairwise_cons.2 ⟨fun entry hentry => ?_, ih others⟩
        rcases mem_record hentry with rfl | hentry
        · exact before_of_not hne hafter
        · exact first entry hentry

/-- What is kept when a proper marker is recorded holds of all that annotations record. -/
theorem recorded_induction {motive : List (Marker × String) → Prop} (nil : motive [])
    (record : ∀ marker ip found, marker.Proper → motive found → motive (record marker ip found))
    (annotations : List (String × String)) : motive (recorded annotations) := by
  rw [recorded, ← List.foldr_reverse]
  induction annotations.reverse with
  | nil => exact nil
  | cons head rest ih =>
    rw [List.foldr_cons]
    split
    · rename_i hmarker
      exact record _ _ _ (proper_of_ofKey? hmarker) ih
    · exact ih

theorem inOrder_recorded (annotations : List (String × String)) : InOrder (recorded annotations) :=
  recorded_induction List.Pairwise.nil (fun marker ip _ _ h => InOrder.record h marker ip) _

theorem proper_of_mem_recorded {annotations : List (String × String)} {entry : Marker × String}
    (h : entry ∈ recorded annotations) : entry.1.Proper := by
  refine recorded_induction (motive := fun found => ∀ entry ∈ found, entry.1.Proper) ?_ ?_ _ entry h
  · exact fun _ hentry => absurd hentry List.not_mem_nil
  · intro marker ip found proper kept entry hentry
    rcases mem_record hentry with rfl | hentry
    · exact proper
    · exact kept entry hentry

end Marker

namespace Provider

variable {provider : Provider} {marker : Marker}

theorem mem_announced (provider : Provider) (marker : Marker) (ip : String) :
    (marker, ip) ∈ provider.announced ↔ provider.announcedTo marker = some ip :=
  mem_iff_lookup ((Marker.inOrder_recorded _).imp Marker.ne_of_before) marker ip

theorem announcedTo_of_not_proper (improper : ¬marker.Proper) : provider.announcedTo marker = none := by
  cases h : provider.announcedTo marker with
  | none => rfl
  | some ip =>
    exact absurd (Marker.proper_of_mem_recorded ((mem_announced provider marker ip).2 h)) improper

end Provider

theorem Metadata.Ordered.distinct {metadata : Metadata} (ordered : metadata.Ordered) :
    metadata.annotationList.Pairwise fun a b => a.1 ≠ b.1 :=
  (List.pairwise_map.1 ordered).imp fun h => ne_of_lt h

/-- A provider that is annotated under the key of a proper marker is marked for it, and for no other
marker than before. -/
theorem Provider.announcedTo_marked {provider marked : Provider} {marker other : Marker}
    (ordered : provider.metadata.Ordered) (proper : marker.Proper) {ip : String}
    (hmarked : marked.metadata = provider.metadata.annotated marker.key ip) :
    marked.announcedTo other = if other = marker then some ip else provider.announcedTo other := by
  by_cases proper' : other.Proper
  · rw [announcedTo_annotated ordered proper' hmarked]
    refine if_congr ⟨fun h => proper.eq_of_key_eq proper' h.symm, fun h => ?_⟩ rfl rfl
    rw [h]
  · have hne : other ≠ marker := fun h => proper' (h ▸ proper)
    rw [announcedTo_of_not_proper proper', announcedTo_of_not_proper proper', if_neg hne]

/-- The marks of a provider are a map by notifier. Reading a key is the inverse of writing it, for
exactly the markers both of whose parts are there and whose namespace holds no underscore. The marks are
in order, one for each marker, and they are the annotations that stand under the keys of such markers;
and every provider takes the patch of such a marker, which puts the address under it, leaves the marks
of all others and all other annotations as they were, and changes nothing else. -/
theorem marks_are_keyed :
    (∀ key marker, Marker.ofKey? key = some marker → marker.key = key) ∧
    (∀ marker : Marker, Marker.ofKey? marker.key = some marker ↔ marker.Proper) ∧
    ∀ provider : Provider, provider.metadata.Ordered →
      Marker.InOrder provider.announced ∧
      (∀ marker ip, (marker, ip) ∈ provider.announced ↔ provider.announcedTo marker = some ip) ∧
      (∀ key text marker, (key, text) ∈ provider.metadata.annotationList →
        Marker.ofKey? key = some marker → provider.announcedTo marker = some text) ∧
      ∀ marker : Marker, marker.Proper →
        provider.announcedTo marker = provider.metadata.annotationList.lookup marker.key ∧
        ∀ ip, ∃ marked : Provider, patched? provider (marker.patch ip) = some marked ∧
          marked.announcedTo marker = some ip ∧
          (∀ other, other ≠ marker → marked.announcedTo other = provider.announcedTo other) ∧
          (∀ key, Marker.ofKey? key ≠ some marker →
            marked.metadata.annotationList.lookup key =
              provider.metadata.annotationList.lookup key) ∧
          ∃ annotations, marked =
            { provider with metadata := { provider.metadata with annotations } } := by
  refine ⟨fun key marker => Marker.key_of_ofKey?, fun marker => ?_, fun provider ordered => ?_⟩
  · exact ⟨Marker.proper_of_ofKey?, Marker.ofKey?_key⟩
  refine ⟨Marker.inOrder_recorded _, provider.mem_announced, fun key text marker hmem hread => ?_,
    fun marker proper => ⟨Provider.announcedTo_eq ordered proper, fun ip => ?_⟩⟩
  · obtain ⟨proper, rfl⟩ := Marker.ofKey?_eq_some.1 hread
    rw [Provider.announcedTo_eq ordered proper]
    exact (mem_iff_lookup ordered.distinct _ _).1 hmem
  · let marked : Provider := { provider with metadata := provider.metadata.annotated marker.key ip }
    have hannounced (other : Marker) : marked.announcedTo other =
        if other = marker then some ip else provider.announcedTo other :=
      Provider.announcedTo_marked ordered proper rfl
    refine ⟨marked, Resource.patched?_marker provider marker ip, ?_, fun other hne => ?_,
      fun key hkey => ?_, _, rfl⟩
    · rw [hannounced, if_pos rfl]
    · rw [hannounced, if_neg hne]
    · have hne : marker.key ≠ key := by
        rintro rfl
        exact hkey (Marker.ofKey?_key proper)
      exact (Metadata.lookup_annotated _ _ _ _).trans (if_neg hne)

/-- A provider that is marked for one notifier and carries an annotation of somebody else is marked for
another one. -/
theorem marks_are_keyed_of_discord :
    let marker : Marker := ⟨"discord", "default"⟩
    let other : Marker := ⟨"slack_bot", "ops"⟩
    let annotations := [("ddns.firestoned.io/slack_bot_ops", "192.0.2.2"), ("example.com/owner", "me")]
    let provider : Provider :=
      ⟨{ Metadata.empty with name := some "cf", annotations := some annotations },
        ⟨"CloudFlare", "token", "config", 900, none, []⟩, none⟩
    provider.metadata.Ordered ∧ marker.Proper ∧
      Marker.ofKey? "ddns.firestoned.io/slack_bot_ops" = some other ∧
      ∃ marked : Provider, patched? provider (marker.patch "192.0.2.7") = some marked ∧
        marked.announcedTo marker = some "192.0.2.7" ∧ marked.announcedTo other = some "192.0.2.2" ∧
          marked.metadata.annotationList.lookup "example.com/owner" = some "me" := by
  intro marker other annotations provider
  have ordered : provider.metadata.Ordered := by
    unfold Metadata.Ordered Json.Members.Sorted
    decide +kernel
  have proper : marker.Proper := ⟨by decide, by decide, by decide⟩
  have hread : Marker.ofKey? "ddns.firestoned.io/slack_bot_ops" = some other := by decide +kernel
  have hforeign : Marker.ofKey? "example.com/owner" ≠ some marker := by decide +kernel
  obtain ⟨-, -, keyed⟩ := marks_are_keyed
  obtain ⟨-, -, marks, patches⟩ := keyed provider ordered
  obtain ⟨marked, hmarked, hput, others, annotated, -⟩ := (patches marker proper).2 "192.0.2.7"
  refine ⟨ordered, proper, hread, marked, hmarked, hput, ?_, ?_⟩
  · rw [others other (by decide)]
    exact marks _ _ _ List.mem_cons_self hread
  · rw [annotated _ hforeign]
    rfl

end DynamicDns
