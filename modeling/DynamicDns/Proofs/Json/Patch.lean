import DynamicDns.Json.MergePatch
import DynamicDns.Proofs.Json.Members

/-!
# What a merge patch changes

Key by key: a patch with increasing keys leaves a member that it does not mention, drops one that it
sets to `null`, and applies what it says otherwise. The patch between two objects mentions exactly
the keys on which they differ.
-/

namespace DynamicDns.Json

namespace Members

/-- What a member becomes when a patch says this of its key. -/
def changed (old : Option Json) : Option Json → Option Json
  | none => old
  | some .null => none
  | some change => some (applyPatch (old.getD .null) change)

theorem changed_none (old : Option Json) : changed old none = old := rfl

theorem changed_of_ne_null {change : Json} (h : change ≠ .null) (old : Option Json) :
    changed old (some change) = some (applyPatch (old.getD .null) change) := by
  rw [changed]
  exact h

theorem changed_obj (old : Option Json) (changes : Members) :
    changed old (some (.obj changes)) =
      some (.obj (applyChanges ((old.bind members?).getD []) changes)) := by
  rw [changed_of_ne_null Json.noConfusion, applyPatch]
  cases old <;> rfl

theorem applyChanges_str (target : Members) (key text : String) :
    applyChanges target [(key, .str text)] = target.insert key (.str text) := by
  rw [applyChanges, applyPatch, applyChanges]
  · exact fun changes h => by cases h
  · exact fun h => by cases h

theorem get?_applyChanges_of_absent {changes : Members} {key : String}
    (absent : ∀ change ∈ changes, change.1 ≠ key) (target : Members) :
    (applyChanges target changes).get? key = target.get? key := by
  induction changes generalizing target with
  | nil => rfl
  | cons head rest ih =>
    obtain ⟨k, change⟩ := head
    have hk : k ≠ key := absent _ List.mem_cons_self
    have hrest := ih fun entry hentry => absent entry (List.mem_cons_of_mem _ hentry)
    cases change
    case null => rw [applyChanges, hrest, get?_erase, if_neg hk]
    all_goals
      rw [applyChanges, hrest, get?_insert, if_neg hk]
      intro h
      cases h

/-- Each key of a patched object depends only on what the object and the patch say of that key. -/
theorem get?_applyChanges {changes : Members} (sorted : changes.Sorted) (target : Members)
    (key : String) :
    (applyChanges target changes).get? key = changed (target.get? key) (changes.get? key) := by
  induction changes generalizing target with
  | nil => rfl
  | cons head rest ih =>
    obtain ⟨k, change⟩ := head
    obtain ⟨first, others⟩ := List.pairwise_cons.1 sorted
    rw [get?_cons]
    by_cases hk : k = key
    · subst k
      have absent : ∀ entry ∈ rest, entry.1 ≠ key := fun entry hentry => (first entry hentry).ne'
      rw [if_pos rfl]
      cases change
      case null => rw [applyChanges, get?_applyChanges_of_absent absent, get?_erase, if_pos rfl]; rfl
      all_goals
        rw [applyChanges, get?_applyChanges_of_absent absent, get?_insert, if_pos rfl]
        · rfl
        intro h
        cases h
    · rw [if_neg hk]
      cases change
      case null => rw [applyChanges, ih others, get?_erase, if_neg hk]
      all_goals
        rw [applyChanges, ih others, get?_insert, if_neg hk]
        intro h
        cases h

/-! ### The patch between two objects -/

def difference (old new : Option Json) : Option Json :=
  match old, new with
  | some old, some new => if old == new then none else some (diff old new)
  | some _, none => some .null
  | none, new => new

theorem difference_bool (old new : Bool) :
    difference (some (.bool old)) (some (.bool new)) = if old = new then none else some (.bool new) := by
  cases old <;> cases new <;> rfl

theorem mem_keys_of_mem_diffMembers {before after : Members} {entry : String × Json}
    (h : entry ∈ diffMembers before after) : ∃ old ∈ before, old.1 = entry.1 := by
  induction before with
  | nil => simp [diffMembers] at h
  | cons head rest ih =>
    obtain ⟨k, old⟩ := head
    have later (h : entry ∈ diffMembers rest after) : ∃ old' ∈ (k, old) :: rest, old'.1 = entry.1 := by
      obtain ⟨found, hfound, hkey⟩ := ih h
      exact ⟨found, List.mem_cons_of_mem _ hfound, hkey⟩
    have here (value : Json) (h : entry ∈ (k, value) :: diffMembers rest after) :
        ∃ old' ∈ (k, old) :: rest, old'.1 = entry.1 := by
      rcases List.mem_cons.1 h with rfl | h
      · exact ⟨_, List.mem_cons_self, rfl⟩
      · exact later h
    rw [diffMembers] at h
    split at h
    · exact here _ h
    · split at h
      · exact later h
      · exact here _ h

theorem Sorted.diffMembers {before : Members} (sorted : before.Sorted) (after : Members) :
    Sorted (diffMembers before after) := by
  induction before with
  | nil => exact List.Pairwise.nil
  | cons head rest ih =>
    obtain ⟨k, old⟩ := head
    obtain ⟨first, others⟩ := List.pairwise_cons.1 sorted
    have cons (value : Json) : Sorted ((k, value) :: Json.diffMembers rest after) := by
      refine List.pairwise_cons.2 ⟨fun entry hentry => ?_, ih others⟩
      obtain ⟨found, hfound, hkey⟩ := mem_keys_of_mem_diffMembers hentry
      exact hkey ▸ first found hfound
    rw [Json.diffMembers]
    split
    · exact cons _
    · split
      · exact ih others
      · exact cons _

theorem get?_diffMembers {before : Members} (sorted : before.Sorted) (after : Members) (key : String) :
    get? (diffMembers before after) key =
      (before.get? key).bind fun old => difference (some old) (after.get? key) := by
  induction before with
  | nil => rfl
  | cons head rest ih =>
    obtain ⟨k, old⟩ := head
    obtain ⟨first, others⟩ := List.pairwise_cons.1 sorted
    rw [diffMembers, get?_cons]
    by_cases hk : k = key
    · subst k
      have later : get? (diffMembers rest after) key = none := by
        rw [ih others, get?_eq_none fun entry hentry => (first entry hentry).ne']
        rfl
      rw [if_pos rfl, Option.bind_some]
      cases hnew : after.get? key with
      | none => exact if_pos rfl
      | some new =>
        dsimp only [difference]
        split
        · exact later
        · exact if_pos rfl
    · rw [if_neg hk, ← ih others]
      split
      · exact if_neg hk
      · split
        · rfl
        · exact if_neg hk

theorem get?_filter_fresh (before after : Members) (key : String) :
    get? (after.filter fun member => !before.has member.1) key =
      if before.has key then none else after.get? key := by
  induction after with
  | nil => simp
  | cons head rest ih =>
    obtain ⟨k, new⟩ := head
    rw [List.filter_cons, get?_cons]
    by_cases hk : k = key
    · subst k
      by_cases hold : before.has key
      · rw [if_neg (by simp [hold]), ih, if_pos hold, if_pos hold]
      · rw [if_pos (by simp [hold]), get?_cons, if_pos rfl, if_neg hold, if_pos rfl]
    · rw [if_neg hk, ← ih]
      split
      · exact if_neg hk
      · rfl

def differences (before after : Members) : Members :=
  ofList (diffMembers before after ++ after.filter fun member => !before.has member.1)

theorem get?_differences {before after : Members} (hbefore : before.Sorted) (hafter : after.Sorted)
    (key : String) :
    (differences before after).get? key = difference (before.get? key) (after.get? key) := by
  have hfresh : Sorted (after.filter fun member => !before.has member.1) :=
    List.Pairwise.filter _ hafter
  rw [differences, get?_ofList, List.reverse_append, get?_append, hfresh.get?_reverse,
    (hbefore.diffMembers after).get?_reverse, get?_filter_fresh, get?_diffMembers hbefore, has]
  cases before.get? key with
  | none => simp [difference]
  | some old => rfl

theorem sorted_differences (before after : Members) : (differences before after).Sorted :=
  sorted_ofList _

end Members

theorem diff_obj (before after : Members) :
    diff (.obj before) (.obj after) = .obj (before.differences after) := by
  rw [diff]
  rfl

/-! ### Values that are no objects -/

/-- A patch that is no object takes the place of anything. -/
theorem applyPatch_of_not_obj {patch : Json} (h : ∀ members, patch ≠ .obj members) (target : Json) :
    target.applyPatch patch = patch := by
  rw [applyPatch]
  exact h

/-- Where only one of two values is an object, or none, the patch is the second. -/
theorem diff_of_not_obj {before after : Json}
    (h : (∀ members, before ≠ .obj members) ∨ ∀ members, after ≠ .obj members) :
    diff before after = after := by
  rw [diff]
  intro old new hbefore hafter
  rcases h with h | h
  · exact h old hbefore
  · exact h new hafter

end DynamicDns.Json
