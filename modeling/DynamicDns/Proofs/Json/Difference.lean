import DynamicDns.Proofs.Json.Exact
import DynamicDns.Proofs.Json.Patch

/-!
# The patch between two values

Applied to the first value the patch leads to the second, and between two objects it mentions no key
on which they agree (`diff_exact_minimal`). A patch reads `null` as a removal, so no object of the
second value may hold one; what is inside a list does not matter, since lists are replaced whole.
"The second value" is meant as values are compared, which does not tell the two zeros apart.
-/

namespace DynamicDns.Json

/-- Something holds of every object that is reached from a value through objects alone. -/
inductive Throughout (holds : Members → Prop) : Json → Prop where
  | leaf {value : Json} (plain : ∀ members, value ≠ .obj members) : Throughout holds value
  | object {members : Members} (here : holds members)
    (inside : ∀ entry ∈ members, Throughout holds entry.2) : Throughout holds (.obj members)

abbrev Ordered : Json → Prop := Throughout Members.Sorted

abbrev NullFree : Json → Prop := Throughout fun members => ∀ entry ∈ members, entry.2 ≠ .null

theorem Throughout.obj {holds : Members → Prop} {members : Members}
    (h : Throughout holds (.obj members)) :
    holds members ∧ ∀ entry ∈ members, Throughout holds entry.2 := by
  cases h with
  | leaf plain => exact absurd rfl (plain members)
  | object here inside => exact ⟨here, inside⟩

/-! ### Sameness -/

mutual

theorem same_symm : ∀ {a b : Json}, same a b = true → same b a = true
  | .null, b, h => by cases b <;> simp_all [same]
  | .bool _, b, h => by cases b <;> simp_all [same]
  | .int _, b, h => by cases b <;> simp_all [same]
  | .float x, b, h => by
    cases b with
    | float y =>
      rw [same, sameNumber] at h ⊢
      rw [Bool.beq_comm, Bool.and_comm]
      exact h
    | _ => simp [same] at h
  | .str _, b, h => by cases b <;> simp_all [same]
  | .arr items, b, h => by
    cases b with
    | arr others => exact sameItems_symm h
    | _ => simp [same] at h
  | .obj members, b, h => by
    cases b with
    | obj others => exact sameMembers_symm h
    | _ => simp [same] at h

theorem sameItems_symm : ∀ {as bs : List Json}, sameItems as bs = true → sameItems bs as = true
  | [], bs, h => by cases bs <;> simp_all [sameItems]
  | a :: as, bs, h => by
    cases bs with
    | nil => simp [sameItems] at h
    | cons b bs =>
      have hsame : same a b = true ∧ sameItems as bs = true := by simpa [sameItems] using h
      simp [sameItems, same_symm hsame.1, sameItems_symm hsame.2]

theorem sameMembers_symm : ∀ {as bs : List (String × Json)},
    sameMembers as bs = true → sameMembers bs as = true
  | [], bs, h => by cases bs <;> simp_all [sameMembers]
  | (k, a) :: as, bs, h => by
    cases bs with
    | nil => simp [sameMembers] at h
    | cons entry bs =>
      obtain ⟨l, b⟩ := entry
      have hsame : (k = l ∧ same a b = true) ∧ sameMembers as bs = true := by
        simpa [sameMembers] using h
      simp [sameMembers, hsame.1.1, same_symm hsame.1.2, sameMembers_symm hsame.2]

end

theorem Exact.eq_of_same {a b : Json} (exact : b.Exact) (h : same a b = true) : a = b :=
  (Json.eq_of_same exact (same_symm h)).symm

namespace Members

theorem sameMembers_of_get? {a b : Members} (ha : a.Sorted) (hb : b.Sorted)
    (h : ∀ key, (a.get? key == b.get? key) = true) : sameMembers a b = true := by
  have hrelated (key : String) :
      Option.Rel (fun x y => same x y = true) (a.get? key) (b.get? key) := by
    have hkey := h key
    cases hx : a.get? key with
    | none =>
      cases hy : b.get? key with
      | none => exact .none
      | some y => simp [hx, hy] at hkey
    | some x =>
      cases hy : b.get? key with
      | none => simp [hx, hy] at hkey
      | some y =>
        rw [hx, hy] at hkey
        exact .some hkey
  have hpairs := ha.forall₂ hb hrelated
  clear ha hb h hrelated
  induction hpairs with
  | nil => rfl
  | cons hentry _ ih => simp [sameMembers, hentry.1, hentry.2, ih]

/-! ### What a patch makes of an object -/

theorem Sorted.applyChanges {target : Members} (sorted : target.Sorted) (changes : Members) :
    Sorted (Json.applyChanges target changes) := by
  induction changes generalizing target with
  | nil => exact sorted
  | cons head rest ih =>
    obtain ⟨key, change⟩ := head
    cases change
    case null => exact ih (List.Pairwise.filter _ sorted)
    all_goals
      rw [Json.applyChanges]
      · exact ih (sorted.insert _ _)
      · intro h
        cases h

/-- The patch mentions a key exactly if the two objects differ there. -/
theorem isSome_difference (old new : Option Json) : (difference old new).isSome = (old != new) := by
  cases old with
  | none => cases new <;> rfl
  | some old =>
    cases new with
    | none => rfl
    | some new =>
      change (if old == new then none else some (diff old new)).isSome = !(old == new)
      cases old == new <;> rfl

theorem difference_of_agree {old new : Option Json} (agree : (old == new) = true) :
    difference old new = none := by
  rw [← Option.not_isSome_iff_eq_none, isSome_difference, bne, agree]
  exact Bool.false_ne_true

theorem differences_self {members : Members} (sorted : members.Sorted) :
    members.differences members = [] := by
  refine (sorted_differences _ _).ext List.Pairwise.nil fun key => ?_
  rw [get?_differences sorted sorted, get?_nil]
  apply difference_of_agree
  cases members.get? key with
  | none => rfl
  | some value => exact same_self value

end Members

/-! ### Leading from one value to another -/

theorem diff_ne_null {after : Json} (h : after ≠ .null) (before : Json) : diff before after ≠ .null := by
  by_cases hobj : ∃ old new, before = .obj old ∧ after = .obj new
  · obtain ⟨old, new, rfl, rfl⟩ := hobj
    rw [diff_obj]
    exact Json.noConfusion
  · rw [diff]
    · exact h
    · exact fun old new hbefore hafter => hobj ⟨old, new, hbefore, hafter⟩

/-- A value without `null` members takes the place of anything that is no object. -/
theorem applyPatch_of_nullFree {patch target : Json} (ordered : patch.Ordered)
    (nullFree : patch.NullFree) (plain : ∀ members, target ≠ .obj members) :
    target.applyPatch patch = patch := by
  induction ordered generalizing target with
  | leaf h => exact applyPatch_of_not_obj h target
  | @object members sorted _ ih =>
    obtain ⟨notNull, inside⟩ := nullFree.obj
    have hfresh : applyChanges [] members = members := by
      refine (Members.Sorted.applyChanges List.Pairwise.nil members).ext sorted fun key => ?_
      rw [Members.get?_applyChanges sorted, Members.get?_nil]
      cases hvalue : members.get? key with
      | none => rfl
      | some value =>
        have hentry := Members.mem_of_get? hvalue
        rw [Members.changed_of_ne_null (notNull _ hentry)]
        exact congrArg some (ih _ hentry (inside _ hentry) fun _ => Json.noConfusion)
    have htarget : target.members? = none := by
      cases target
      case obj old => exact absurd rfl (plain old)
      all_goals rfl
    rw [applyPatch, htarget]
    exact congrArg Json.obj hfresh

/-- The patch between two values leads from the first to the second. -/
theorem same_applyPatch_diff {before after : Json} (hbefore : before.Ordered) (hafter : after.Ordered)
    (nullFree : after.NullFree) : same (before.applyPatch (diff before after)) after = true := by
  induction hafter generalizing before with
  | leaf h =>
    rw [diff_of_not_obj (.inr h), applyPatch_of_not_obj h]
    exact same_self _
  | @object new hnew inside ih =>
    obtain ⟨notNull, nullFreeInside⟩ := nullFree.obj
    cases hbefore with
    | leaf h =>
      rw [diff_of_not_obj (.inl h), applyPatch_of_nullFree (.object hnew inside) nullFree h]
      exact same_self _
    | @object old hold insideOld =>
      rw [diff_obj, applyPatch]
      refine Members.sameMembers_of_get? (hold.applyChanges _) hnew fun key => ?_
      rw [Members.get?_applyChanges (Members.sorted_differences old new)]
      change (Members.changed (old.get? key) _ == _) = true
      rw [Members.get?_differences hold hnew]
      -- Key by key: what is the same is not mentioned, and what is mentioned is shown to be the same.
      cases hvalue : new.get? key with
      | none => cases old.get? key <;> rfl
      | some value =>
        have hentry := Members.mem_of_get? hvalue
        have hne := notNull _ hentry
        cases hvalue' : old.get? key with
        | none =>
          rw [Members.difference, Members.changed_of_ne_null hne]
          change same (applyPatch .null value) value = true
          rw [applyPatch_of_nullFree (inside _ hentry) (nullFreeInside _ hentry)
            fun _ => Json.noConfusion]
          exact same_self value
        | some value' =>
          have hentry' := Members.mem_of_get? hvalue'
          rw [Members.difference]
          split
          · rename_i hsame
            exact hsame
          · rw [Members.changed_of_ne_null (diff_ne_null hne _)]
            exact ih _ hentry (insideOld _ hentry') (nullFreeInside _ hentry)

/-- The patch from one value to another is exact and minimal. Applied to the first value it yields one
that is the same as the second, and equal to it if that holds no float, provided that no object of the
second has a `null` member. Between two objects it has a member for exactly the keys on which they
differ, so it leaves every other member of any object alone, and between an object and itself it is
empty. -/
theorem diff_exact_minimal :
    (∀ before after : Json, before.Ordered → after.Ordered → after.NullFree →
      (before.applyPatch (diff before after) == after) = true ∧
        (after.Exact → before.applyPatch (diff before after) = after)) ∧
    ∀ before after : Members, before.Sorted → after.Sorted →
      (∃ changes, diff (.obj before) (.obj after) = .obj changes) ∧
        (∀ key, ((diff (.obj before) (.obj after)).get? key).isSome =
          (before.get? key != after.get? key)) ∧
        (∀ (other : Members) (key : String), (before.get? key == after.get? key) = true →
          ((Json.obj other).applyPatch (diff (.obj before) (.obj after))).get? key =
            other.get? key) ∧
        diff (.obj before) (.obj before) = .obj [] := by
  refine ⟨fun before after hbefore hafter nullFree => ?_, fun before after hbefore hafter => ?_⟩
  · have hsame := same_applyPatch_diff hbefore hafter nullFree
    exact ⟨hsame, fun exact => exact.eq_of_same hsame⟩
  · have hget (key : String) := Members.get?_differences hbefore hafter key
    rw [diff_obj, diff_obj, Members.differences_self hbefore]
    refine ⟨⟨_, rfl⟩, fun key => ?_, fun other key agree => ?_, rfl⟩
    · change ((before.differences after).get? key).isSome = _
      rw [hget, Members.isSome_difference]
    · rw [applyPatch]
      change (applyChanges other (before.differences after)).get? key = _
      rw [Members.get?_applyChanges (Members.sorted_differences before after), hget,
        Members.difference_of_agree agree, Members.changed_none]

/-- Of a status, where one address goes, another comes and a nested member is emptied, only what stays
is not mentioned. -/
theorem diff_exact_minimal_of_status :
    let before : Members := [("conditions", .arr [.null]), ("publicIP", .str "192.0.2.1"),
      ("seen", .obj [("at", .int 1)])]
    let after : Members := [("conditions", .arr [.null]), ("providerIP", .str "192.0.2.7"),
      ("seen", .obj [])]
    let patch := diff (.obj before) (.obj after)
    (Json.obj before).Ordered ∧ (Json.obj after).Ordered ∧ (Json.obj after).NullFree ∧
      (Json.obj before).applyPatch patch = .obj after ∧
      ["conditions", "providerIP", "publicIP", "seen"].map (fun key => (patch.get? key).isSome) =
        [false, true, true, true] ∧
      ((Json.obj [("conditions", .bool true)]).applyPatch patch).get? "conditions" =
        some (.bool true) := by
  intro before after patch
  have hbefore : before.Sorted := by
    unfold Members.Sorted
    decide +kernel
  have hafter : after.Sorted := by
    unfold Members.Sorted
    decide +kernel
  have leaf {holds : Members → Prop} {value : Json} (h : value.members? = none) :
      Throughout holds value := .leaf fun _ hobj => by rw [hobj] at h; cases h
  have ordered : (Json.obj before).Ordered ∧ (Json.obj after).Ordered := by
    refine ⟨.object hbefore ?_, .object hafter ?_⟩
    · simp only [before, List.forall_mem_cons]
      exact ⟨leaf rfl, leaf rfl, .object (List.pairwise_singleton _ _) (by simpa using leaf rfl), by simp⟩
    · simp only [after, List.forall_mem_cons]
      exact ⟨leaf rfl, leaf rfl, .object .nil (by simp), by simp⟩
  have nullFree : (Json.obj after).NullFree := by
    refine .object (by simp [after]) ?_
    simp only [after, List.forall_mem_cons]
    exact ⟨leaf rfl, leaf rfl, .object (by simp) (by simp), by simp⟩
  have exact : (Json.obj after).Exact := by simp [after, Exact, ExactMembers, ExactItems]
  obtain ⟨leads, spares⟩ := diff_exact_minimal
  obtain ⟨-, mentions, untouched, -⟩ := spares before after hbefore hafter
  refine ⟨ordered.1, ordered.2, nullFree, (leads _ _ ordered.1 ordered.2 nullFree).2 exact, ?_,
    untouched _ "conditions" rfl⟩
  simp only [patch, List.map_cons, List.map_nil, mentions]
  rfl

end DynamicDns.Json
