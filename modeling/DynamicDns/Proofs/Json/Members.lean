import DynamicDns.Json.Basic
import Mathlib.Data.List.Forall2
import Mathlib.Data.String.Basic

/-!
# Members of objects

`Members.get?` is the view through which objects are read, and the lemmas here say what each
operation does to it. An object whose keys strictly increase holds each key once, and every
operation keeps it that way; where a key occurs once, reading from the front and reading from the
back are the same.
-/

namespace DynamicDns.Json

namespace Members

def Sorted (members : Members) : Prop := members.Pairwise fun a b => a.1 < b.1

@[simp] theorem get?_nil (key : String) : get? [] key = none := rfl

@[simp] theorem get?_cons (k : String) (v : Json) (rest : Members) (key : String) :
    get? ((k, v) :: rest) key = if k = key then some v else get? rest key := rfl

theorem get?_append (front back : Members) (key : String) :
    get? (front ++ back) key = (get? front key).or (get? back key) := by
  induction front with
  | nil => rfl
  | cons entry rest ih =>
    rw [List.cons_append, get?_cons, get?_cons, ih]
    split <;> rfl

@[simp] theorem get?_member? (name : String) (value : Option Json) (key : String) :
    get? (member? name value) key = if name = key then value else none := by
  cases value with
  | none => simp [member?]
  | some value => rfl

theorem reverse_member? (name : String) (value : Option Json) :
    (member? name value).reverse = member? name value := by
  cases value <;> rfl

theorem mem_of_get? {members : Members} {key : String} {value : Json}
    (h : members.get? key = some value) : (key, value) ∈ members := by
  induction members with
  | nil => simp at h
  | cons entry rest ih =>
    obtain ⟨k, v⟩ := entry
    rw [get?_cons] at h
    split at h
    · subst k
      cases h
      exact List.mem_cons_self
    · exact List.mem_cons_of_mem _ (ih h)

theorem get?_eq_none {members : Members} {key : String} (h : ∀ entry ∈ members, entry.1 ≠ key) :
    members.get? key = none := by
  cases found : members.get? key with
  | none => rfl
  | some value => exact absurd rfl (h _ (mem_of_get? found))

theorem get?_insert (members : Members) (key other : String) (value : Json) :
    (members.insert key value).get? other = if key = other then some value else members.get? other := by
  induction members with
  | nil => rfl
  | cons entry rest ih =>
    obtain ⟨k, v⟩ := entry
    rw [insert]
    split
    · subst k
      rw [get?_cons, get?_cons]
      split <;> rfl
    · rename_i hne
      split
      · rfl
      · rw [get?_cons, get?_cons, ih]
        by_cases hother : k = other
        · rw [if_pos hother, if_pos hother, if_neg fun h => hne (h.trans hother.symm)]
        · rw [if_neg hother, if_neg hother]

theorem get?_erase (members : Members) (key other : String) :
    (members.erase key).get? other = if key = other then none else members.get? other := by
  induction members with
  | nil => simp [erase]
  | cons entry rest ih =>
    obtain ⟨k, v⟩ := entry
    simp only [erase, List.filter_cons] at ih ⊢
    by_cases hk : k = key
    · subst k
      rw [if_neg (by simp), ih, get?_cons]
      split <;> rfl
    · rw [if_pos (by simpa using hk), get?_cons, get?_cons, ih]
      by_cases hother : k = other
      · rw [if_pos hother, if_pos hother, if_neg fun h => hk (hother.trans h.symm)]
      · rw [if_neg hother, if_neg hother]

/-! ### Keys that occur once -/

theorem mem_insert {members : Members} {key : String} {value : Json} {entry : String × Json}
    (h : entry ∈ members.insert key value) : entry = (key, value) ∨ entry ∈ members := by
  induction members with
  | nil => exact .inl (List.mem_singleton.1 h)
  | cons head rest ih =>
    obtain ⟨k, v⟩ := head
    rw [insert] at h
    split at h
    · exact (List.mem_cons.1 h).imp_right (List.mem_cons_of_mem _)
    · split at h
      · exact List.mem_cons.1 h
      · rcases List.mem_cons.1 h with rfl | h
        · exact .inr List.mem_cons_self
        · exact (ih h).imp_right (List.mem_cons_of_mem _)

theorem Sorted.insert {members : Members} (sorted : members.Sorted) (key : String) (value : Json) :
    (members.insert key value).Sorted := by
  induction members with
  | nil => exact List.pairwise_singleton _ _
  | cons head rest ih =>
    obtain ⟨k, v⟩ := head
    obtain ⟨first, others⟩ := List.pairwise_cons.1 sorted
    rw [Members.insert]
    split
    · subst k
      exact List.pairwise_cons.2 ⟨first, others⟩
    · rename_i hne
      split
      · rename_i hlt
        refine List.pairwise_cons.2 ⟨fun entry hentry => ?_, sorted⟩
        rcases List.mem_cons.1 hentry with rfl | hentry
        · exact hlt
        · exact lt_trans hlt (first entry hentry)
      · rename_i hle
        refine List.pairwise_cons.2 ⟨fun entry hentry => ?_, ih others⟩
        rcases mem_insert hentry with rfl | hentry
        · exact lt_of_le_of_ne (not_lt.1 hle) (Ne.symm hne)
        · exact first entry hentry

theorem Sorted.get?_reverse {members : Members} (sorted : members.Sorted) (key : String) :
    get? members.reverse key = members.get? key := by
  induction members with
  | nil => rfl
  | cons head rest ih =>
    obtain ⟨k, v⟩ := head
    obtain ⟨first, others⟩ := List.pairwise_cons.1 sorted
    rw [List.reverse_cons, get?_append, ih others, get?_cons, get?_cons, get?_nil]
    split
    · subst k
      rw [get?_eq_none fun entry hentry => (first entry hentry).ne']
      rfl
    · rw [Option.or_none]

/-! ### Members out of a list -/

/-- What comes behind a key holds nothing up to it. -/
theorem get?_eq_none_of_le {members : Members} {k key : String}
    (behind : ∀ entry ∈ members, k < entry.1) (h : key ≤ k) : members.get? key = none :=
  get?_eq_none fun entry hentry => (lt_of_le_of_lt h (behind entry hentry)).ne'

/-- Objects with increasing keys that hold related values under each key are related member by
member. -/
theorem Sorted.forall₂ {related : Json → Json → Prop} {a b : Members} (ha : a.Sorted) (hb : b.Sorted)
    (h : ∀ key, Option.Rel related (a.get? key) (b.get? key)) :
    List.Forall₂ (fun x y => x.1 = y.1 ∧ related x.2 y.2) a b := by
  induction a generalizing b with
  | nil =>
    cases b with
    | nil => exact .nil
    | cons entry rest =>
      have hentry := h entry.1
      rw [get?_nil, get?_cons, if_pos rfl] at hentry
      cases hentry
  | cons entry rest ih =>
    obtain ⟨k, v⟩ := entry
    have hk := h k
    cases b with
    | nil =>
      rw [get?_nil, get?_cons, if_pos rfl] at hk
      cases hk
    | cons other others =>
      obtain ⟨l, w⟩ := other
      obtain ⟨behind, hrest⟩ := List.pairwise_cons.1 ha
      obtain ⟨behind', hothers⟩ := List.pairwise_cons.1 hb
      have hl := h l
      rw [get?_cons, if_pos rfl, get?_cons] at hk
      rw [get?_cons, get?_cons, if_pos rfl] at hl
      rcases lt_trichotomy k l with hkl | rfl | hkl
      · rw [if_neg hkl.ne', get?_eq_none_of_le behind' hkl.le] at hk
        cases hk
      · rw [if_pos rfl] at hk
        cases hk with
        | some hvalue =>
          refine .cons ⟨rfl, hvalue⟩ (ih hrest hothers fun key => ?_)
          by_cases hkey : k = key
          · subst hkey
            rw [get?_eq_none_of_le behind le_rfl, get?_eq_none_of_le behind' le_rfl]
            exact .none
          · have hother := h key
            rwa [get?_cons, if_neg hkey, get?_cons, if_neg hkey] at hother
      · rw [if_neg hkl.ne', get?_eq_none_of_le behind hkl.le] at hl
        cases hl

theorem Sorted.ext {a b : Members} (ha : a.Sorted) (hb : b.Sorted)
    (h : ∀ key, a.get? key = b.get? key) : a = b := by
  have hrelated (key : String) : Option.Rel (· = ·) (a.get? key) (b.get? key) := by
    rw [h key]
    cases b.get? key with
    | none => exact .none
    | some value => exact .some rfl
  refine List.forall₂_eq_eq_eq.le _ _ ((ha.forall₂ hb hrelated).imp ?_)
  rintro ⟨k, v⟩ ⟨l, w⟩ ⟨rfl, rfl⟩
  rfl

theorem sorted_ofList (members : List (String × Json)) : (ofList members).Sorted := by
  suffices h : ∀ start : Members, start.Sorted →
      (members.foldl (fun sorted member => insert member.1 member.2 sorted) start).Sorted from
    h [] List.Pairwise.nil
  induction members with
  | nil => exact fun _ sorted => sorted
  | cons head rest ih => exact fun start sorted => ih _ (sorted.insert head.1 head.2)

/-- Of two values for one key the later is the one that is read. -/
theorem get?_ofList (members : List (String × Json)) (key : String) :
    (ofList members).get? key = get? members.reverse key := by
  suffices h : ∀ start : Members,
      get? (members.foldl (fun sorted member => insert member.1 member.2 sorted) start) key =
        (get? members.reverse key).or (start.get? key) by
    rw [ofList, h, get?_nil, Option.or_none]
  induction members with
  | nil => exact fun _ => rfl
  | cons head rest ih =>
    intro start
    obtain ⟨k, v⟩ := head
    rw [List.foldl_cons, ih, List.reverse_cons, get?_append, get?_insert, get?_cons, get?_nil]
    split <;> simp

end Members

end DynamicDns.Json
