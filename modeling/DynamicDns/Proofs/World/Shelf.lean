import DynamicDns.World.Cluster
import Mathlib.Data.String.Basic

/-!
# Shelves in order

The keys of a shelf strictly increase, and each object stands under its own key. Putting an object
under its own key keeps it so, and then an object that is listed is the one that is found.
-/

namespace DynamicDns

namespace ObjectKey

theorem before_iff (a b : ObjectKey) :
    a.before b = true ↔ a.ns < b.ns ∨ a.ns = b.ns ∧ a.name < b.name := by
  simp [before]

theorem before_trans {a b c : ObjectKey} (hab : a.before b = true) (hbc : b.before c = true) :
    a.before c = true := by
  rw [before_iff] at hab hbc ⊢
  rcases hab with hab | ⟨hab, hab'⟩
  · rcases hbc with hbc | ⟨hbc, -⟩
    · exact .inl (lt_trans hab hbc)
    · exact .inl (hbc ▸ hab)
  · rcases hbc with hbc | ⟨hbc, hbc'⟩
    · exact .inl (hab ▸ hbc)
    · exact .inr ⟨hab.trans hbc, lt_trans hab' hbc'⟩

theorem ne_of_before {a b : ObjectKey} (h : a.before b = true) : a ≠ b := by
  rintro rfl
  rw [before_iff] at h
  rcases h with h | ⟨-, h⟩ <;> exact lt_irrefl _ h

theorem before_of_not {a b : ObjectKey} (hne : a ≠ b) (h : ¬a.before b = true) :
    b.before a = true := by
  rw [before_iff, not_or, not_and] at h
  rw [before_iff]
  rcases lt_trichotomy b.ns a.ns with hns | hns | hns
  · exact .inl hns
  · refine .inr ⟨hns, lt_of_le_of_ne (not_lt.1 (h.2 hns.symm)) fun hname => hne ?_⟩
    obtain ⟨ns, name⟩ := a
    rw [mk.injEq]
    exact ⟨hns.symm, hname.symm⟩
  · exact absurd hns h.1

end ObjectKey

namespace Shelf

variable {α : Type}

/-- The keys strictly increase, and each object stands under its own key. -/
structure Kept (keyOf : α → ObjectKey) (shelf : Shelf α) : Prop where
  ordered : shelf.Pairwise fun a b => a.1.before b.1 = true
  own : ∀ entry ∈ shelf, keyOf entry.2 = entry.1

variable {keyOf : α → ObjectKey}

theorem mem_put {shelf : Shelf α} {key : ObjectKey} {value : α} {entry : ObjectKey × α}
    (h : entry ∈ shelf.put key value) : entry = (key, value) ∨ entry ∈ shelf := by
  induction shelf with
  | nil => exact .inl (List.mem_singleton.1 h)
  | cons head rest ih =>
    obtain ⟨k, v⟩ := head
    rw [put] at h
    split at h
    · exact (List.mem_cons.1 h).imp_right (List.mem_cons_of_mem _)
    · split at h
      · exact List.mem_cons.1 h
      · rcases List.mem_cons.1 h with rfl | h
        · exact .inr List.mem_cons_self
        · exact (ih h).imp_right (List.mem_cons_of_mem _)

theorem mem_of_get? {shelf : Shelf α} {key : ObjectKey} {value : α}
    (h : shelf.get? key = some value) : (key, value) ∈ shelf := by
  induction shelf with
  | nil => cases h
  | cons head rest ih =>
    obtain ⟨k, v⟩ := head
    rw [get?] at h
    split at h
    · subst k
      cases h
      exact List.mem_cons_self
    · exact List.mem_cons_of_mem _ (ih h)

namespace Kept

theorem put {shelf : Shelf α} (kept : shelf.Kept keyOf) {key : ObjectKey} {value : α}
    (own : keyOf value = key) : (shelf.put key value).Kept keyOf := by
  refine ⟨?_, fun entry hentry => ?_⟩
  · obtain ⟨ordered, -⟩ := kept
    induction shelf with
    | nil => exact List.pairwise_singleton _ _
    | cons head rest ih =>
      obtain ⟨k, v⟩ := head
      obtain ⟨first, others⟩ := List.pairwise_cons.1 ordered
      rw [Shelf.put]
      split
      · subst k
        exact List.pairwise_cons.2 ⟨first, others⟩
      · rename_i hne
        split
        · rename_i hbefore
          refine List.pairwise_cons.2 ⟨fun entry hentry => ?_, ordered⟩
          rcases List.mem_cons.1 hentry with rfl | hentry
          · exact hbefore
          · exact ObjectKey.before_trans hbefore (first entry hentry)
        · rename_i hafter
          refine List.pairwise_cons.2 ⟨fun entry hentry => ?_, ih others⟩
          rcases mem_put hentry with rfl | hentry
          · exact ObjectKey.before_of_not hne hafter
          · exact first entry hentry
  · rcases mem_put hentry with rfl | hentry
    · exact own
    · exact kept.own entry hentry

theorem get?_of_mem {shelf : Shelf α} (kept : shelf.Kept keyOf) {key : ObjectKey} {value : α}
    (h : (key, value) ∈ shelf) : shelf.get? key = some value := by
  obtain ⟨ordered, -⟩ := kept
  induction shelf with
  | nil => cases h
  | cons head rest ih =>
    obtain ⟨k, v⟩ := head
    obtain ⟨first, others⟩ := List.pairwise_cons.1 ordered
    rw [get?]
    rcases List.mem_cons.1 h with h | h
    · cases h
      exact if_pos rfl
    · rw [if_neg (ObjectKey.ne_of_before (first _ h)), ih h others]

theorem keyOf_of_get? {shelf : Shelf α} (kept : shelf.Kept keyOf) {key : ObjectKey} {value : α}
    (h : shelf.get? key = some value) : keyOf value = key :=
  kept.own _ (mem_of_get? h)

theorem get?_of_mem_values {shelf : Shelf α} (kept : shelf.Kept keyOf) {value : α}
    (h : value ∈ shelf.values) : shelf.get? (keyOf value) = some value := by
  obtain ⟨⟨key, _⟩, hentry, rfl⟩ := List.mem_map.1 h
  rw [kept.own _ hentry]
  exact kept.get?_of_mem hentry

theorem mem_iff {shelf : Shelf α} (kept : shelf.Kept keyOf) {key : ObjectKey} {value : α} :
    (key, value) ∈ shelf ↔ shelf.get? key = some value :=
  ⟨kept.get?_of_mem, mem_of_get?⟩

theorem nodup {shelf : Shelf α} (kept : shelf.Kept keyOf) : shelf.Nodup :=
  kept.ordered.imp fun hbefore heq => ObjectKey.ne_of_before hbefore (congrArg Prod.fst heq)

theorem ext {shelf shelf' : Shelf α} (kept : shelf.Kept keyOf) (kept' : shelf'.Kept keyOf)
    (same : ∀ key, shelf.get? key = shelf'.get? key) : shelf = shelf' := by
  have perm : shelf.Perm shelf' := by
    refine (List.perm_ext_iff_of_nodup kept.nodup kept'.nodup).2 ?_
    rintro ⟨key, value⟩
    rw [kept.mem_iff, kept'.mem_iff, same]
  refine perm.eq_of_pairwise (fun a b _ _ hab hba => ?_) kept.ordered kept'.ordered
  exact absurd rfl (ObjectKey.ne_of_before (ObjectKey.before_trans hab hba))

/-- No two listed objects have one key. -/
theorem values_pairwise {shelf : Shelf α} (kept : shelf.Kept keyOf) :
    shelf.values.Pairwise fun a b => keyOf a ≠ keyOf b := by
  rw [values, List.pairwise_map]
  refine kept.ordered.imp_of_mem fun {a b} ha hb hbefore => ?_
  rw [kept.own a ha, kept.own b hb]
  exact ObjectKey.ne_of_before hbefore

end Kept

/-! ### Changing each object -/

variable {β : Type}

def mapValues (f : α → β) (shelf : Shelf α) : Shelf β := shelf.map fun entry => (entry.1, f entry.2)

theorem get?_mapValues (f : α → β) (shelf : Shelf α) (key : ObjectKey) :
    (shelf.mapValues f).get? key = (shelf.get? key).map f := by
  induction shelf with
  | nil => rfl
  | cons head rest ih =>
    change (if head.1 = key then some (f head.2) else (mapValues f rest).get? key) =
      (if head.1 = key then some head.2 else get? rest key).map f
    rw [ih]
    split <;> rfl

theorem Kept.mapValues {shelf : Shelf α} (kept : shelf.Kept keyOf) {f : α → α}
    (own : ∀ value, keyOf (f value) = keyOf value) : (shelf.mapValues f).Kept keyOf := by
  refine ⟨List.pairwise_map.2 kept.ordered, fun entry hentry => ?_⟩
  obtain ⟨old, hold, rfl⟩ := List.mem_map.1 hentry
  exact (own old.2).trans (kept.own old hold)

/-- What a patch that is accepted does. -/
theorem patch_eq_ok {α : Type} [Codec α] {shelf shelf' : Shelf α} {key : ObjectKey} {change : Json}
    (h : shelf.patch key change = .ok shelf') :
    ∃ object object', shelf.get? key = some object ∧ patched? object change = some object' ∧
      shelf' = shelf.put key object' := by
  rw [patch] at h
  cases hobject : shelf.get? key with
  | none =>
    rw [hobject] at h
    cases h
  | some object =>
    rw [hobject] at h
    dsimp only at h
    cases hobject' : patched? object change with
    | none =>
      rw [hobject'] at h
      cases h
    | some object' =>
      rw [hobject'] at h
      cases h
      exact ⟨object, object', rfl, hobject', rfl⟩

end Shelf

end DynamicDns
