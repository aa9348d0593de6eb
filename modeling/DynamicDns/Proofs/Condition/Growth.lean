import DynamicDns.Proofs.Condition.Ledger
import Mathlib.Data.List.Nodup

/-!
# How a ledger grows

A ledger is written by assignments to one condition and by placeholders for the types that are missing.
Neither removes or moves a condition (`Extends`), and no type comes to stand twice
(`distinct_assign`, `distinct_ensureTypes`). What a write changes it stamps with the generation that it
was made for, and it changes the time of a condition only along with something else (`Amended`); so
after many writes for one generation, all that is different is stamped with it (`Revised`).
-/

namespace DynamicDns.Condition

def types (conditions : List Condition) : List String := conditions.map Condition.type

def Distinct (conditions : List Condition) : Prop := (types conditions).Nodup

def Complete (conditions : List Condition) : Prop := ∀ type ∈ declaredTypes, type ∈ types conditions

def timeless (c : Condition) : Condition := { c with lastTransitionTime := none }

@[simp] theorem types_nil : types [] = [] := rfl

@[simp] theorem types_cons (c : Condition) (rest : List Condition) :
    types (c :: rest) = c.type :: types rest := rfl

@[simp] theorem types_append (first second : List Condition) :
    types (first ++ second) = types first ++ types second := List.map_append

@[simp] theorem type_placeholder (now type : String) : (placeholder now type).type = type := rfl

theorem isSome_find?_iff {conditions : List Condition} {type : String} :
    (find? conditions type).isSome ↔ type ∈ types conditions := by
  simp [find?, types]

/-! ### Growing lists -/

/-- One list grows to another: what is in it stays in its place and is changed in certain ways, and
what comes after it is new. -/
inductive Grown (changes : Condition → Condition → Prop) (adds : Condition → Prop) :
    List Condition → List Condition → Prop where
  | added {new : List Condition} (h : ∀ c ∈ new, adds c) : Grown changes adds [] new
  | kept {c c' : Condition} {rest rest' : List Condition} (first : changes c c')
      (others : Grown changes adds rest rest') : Grown changes adds (c :: rest) (c' :: rest')

namespace Grown

variable {changes changes' : Condition → Condition → Prop} {adds adds' : Condition → Prop}
  {before between after new : List Condition}

theorem append (same : ∀ c, changes c c) (h : ∀ c ∈ new, adds c) (conditions : List Condition) :
    Grown changes adds conditions (conditions ++ new) := by
  induction conditions with
  | nil => exact .added h
  | cons c rest ih => exact .kept (same c) ih

theorem refl (same : ∀ c, changes c c) (conditions : List Condition) :
    Grown changes adds conditions conditions := by
  induction conditions with
  | nil => exact .added (by simp)
  | cons c rest ih => exact .kept (same c) ih

theorem mono (h : Grown changes adds before after) (hchanges : ∀ c c', changes c c' → changes' c c')
    (hadds : ∀ c, adds c → adds' c) : Grown changes' adds' before after := by
  induction h with
  | added h => exact .added fun c hc => hadds c (h c hc)
  | kept first _ ih => exact .kept (hchanges _ _ first) ih

theorem forall_added (h : Grown changes adds before after) (hall : ∀ c ∈ before, adds c)
    (kept : ∀ c c', adds c → changes c c' → adds c') : ∀ c ∈ after, adds c := by
  induction h with
  | added h => exact h
  | kept first _ ih =>
    obtain ⟨hfirst, hrest⟩ := List.forall_mem_cons.1 hall
    exact List.forall_mem_cons.2 ⟨kept _ _ hfirst first, ih hrest⟩

theorem trans (first : Grown changes adds before between) (second : Grown changes adds between after)
    (compose : ∀ a b c, changes a b → changes b c → changes a c)
    (kept : ∀ c c', adds c → changes c c' → adds c') : Grown changes adds before after := by
  induction first generalizing after with
  | added h => exact .added (second.forall_added h kept)
  | kept hfirst _ ih =>
    cases second with
    | kept hsecond others => exact .kept (compose _ _ _ hfirst hsecond) (ih others)

end Grown

/-! ### What writes do -/

/-- A condition that was not there before: a placeholder, or one that was recorded for a generation. -/
def Fresh (generation : Int64) (c : Condition) : Prop :=
  c.type ∈ declaredTypes ∧
    ((∃ now, c = placeholder now c.type) ∨ c.observedGeneration = some generation)

/-- Nothing was removed or moved, and only declared types were added. -/
def Extends : List Condition → List Condition → Prop :=
  Grown (fun c c' => c'.type = c.type) fun c => c.type ∈ declaredTypes

/-- All that is different was recorded for a generation, but for placeholders. -/
def Revised (generation : Int64) : List Condition → List Condition → Prop :=
  Grown (fun c c' => c'.type = c.type ∧ (c' = c ∨ c'.observedGeneration = some generation))
    (Fresh generation)

/-- What is different was recorded for a generation, and not in its time alone. -/
def Amended (generation : Int64) : List Condition → List Condition → Prop :=
  Grown (fun c c' => c' = c ∨ c'.type = c.type ∧ c'.observedGeneration = some generation ∧
    c'.timeless ≠ c.timeless) (Fresh generation)

variable {generation : Int64} {before between after : List Condition}

theorem Extends.refl (conditions : List Condition) : Extends conditions conditions :=
  Grown.refl (fun c => Eq.refl c.type) conditions

theorem Extends.trans (first : Extends before between) (second : Extends between after) :
    Extends before after := by
  apply Grown.trans first second
  · intro a b c hab hbc
    exact hbc.trans hab
  · intro c c' hc hcc'
    rwa [hcc']

theorem Revised.refl (generation : Int64) (conditions : List Condition) :
    Revised generation conditions conditions :=
  Grown.refl (fun _ => ⟨rfl, .inl rfl⟩) conditions

theorem Revised.trans (first : Revised generation before between)
    (second : Revised generation between after) : Revised generation before after := by
  apply Grown.trans first second
  · intro a b c ⟨htype, hab⟩ ⟨htype', hbc⟩
    refine ⟨htype'.trans htype, ?_⟩
    rcases hbc with rfl | hc
    · exact hab
    · exact .inr hc
  · intro c c' ⟨declared, hc⟩ ⟨htype, hcc'⟩
    refine ⟨htype ▸ declared, ?_⟩
    rcases hcc' with rfl | hc'
    · exact hc
    · exact .inr hc'

theorem Amended.refl (generation : Int64) (conditions : List Condition) :
    Amended generation conditions conditions :=
  Grown.refl (fun _ => .inl rfl) conditions

theorem Amended.revised (h : Amended generation before after) : Revised generation before after := by
  apply Grown.mono h
  · rintro c c' (rfl | ⟨htype, observed, -⟩)
    · exact ⟨rfl, .inl rfl⟩
    · exact ⟨htype, .inr observed⟩
  · exact fun _ => id

theorem Revised.extends (h : Revised generation before after) : Extends before after :=
  Grown.mono h (fun _ _ => And.left) fun _ => And.left

theorem Extends.mem_types (h : Extends before after) {type : String} (hmem : type ∈ types before) :
    type ∈ types after := by
  induction h with
  | added => simp at hmem
  | kept first _ ih =>
    rw [types_cons, List.mem_cons] at hmem ⊢
    rw [first]
    exact hmem.imp_right ih

theorem Extends.complete (h : Extends before after) (complete : Complete before) : Complete after :=
  fun type declared => h.mem_types (complete type declared)

/-! ### Assignments -/

theorem observedGeneration_applyAll (changes : List Change) (generation : Int64) (c : Condition) :
    (applyAll (changes ++ [.observed generation]) c).1.observedGeneration = some generation := by
  induction changes generalizing c with
  | nil => rfl
  | cons change rest ih => exact ih (change.apply c)

/-- Assignments that are met once they were made have changed more than a time, where they have
changed anything. -/
theorem timeless_ne_of_changed {changes : List Change} (settling : Settling changes) {c : Condition}
    (changed : (applyAll changes c).2 = true) :
    (applyAll changes c).1.timeless ≠ c.timeless := by
  intro same
  have hmeets : Meets changes c := by
    have h := settling c c.lastTransitionTime
    have hsame : { (applyAll changes c).1 with lastTransitionTime := c.lastTransitionTime } = c := by
      simpa [timeless] using congrArg
        (fun c' : Condition => { c' with lastTransitionTime := c.lastTransitionTime }) same
    rwa [hsame] at h
  rw [applyAll_of_meets hmeets] at changed
  cases changed

theorem amended_assign {changes : List Change} {type : String}
    (settling : Settling (changes ++ [.observed generation])) (declared : type ∈ declaredTypes)
    (now : String) (conditions : List Condition) :
    Amended generation conditions
      (assign now type (changes ++ [.observed generation]) conditions).1 := by
  induction conditions with
  | nil =>
    refine .added fun c hc => ?_
    obtain rfl := List.mem_singleton.1 hc
    refine ⟨?_, .inr ?_⟩
    · exact (type_applyAll _ (placeholder now type)).symm ▸ declared
    · exact observedGeneration_applyAll changes generation _
  | cons c rest ih =>
    rw [assign]
    split
    · dsimp only
      split
      · rename_i changed
        refine .kept (.inr ⟨?_, ?_, ?_⟩) (Amended.refl generation rest)
        · exact type_applyAll _ c
        · exact observedGeneration_applyAll changes generation c
        · exact timeless_ne_of_changed settling changed
      · exact Amended.refl generation _
    · exact .kept (.inl rfl) ih

theorem types_assign (now type : String) (changes : List Change) (conditions : List Condition) :
    types (assign now type changes conditions).1 =
      if type ∈ types conditions then types conditions else types conditions ++ [type] := by
  induction conditions with
  | nil => simp [assign, type_applyAll]
  | cons c rest ih =>
    rw [assign]
    by_cases htype : c.type = type
    · rw [if_pos htype]
      dsimp only
      split <;> simp [htype, type_applyAll]
    · rw [if_neg htype]
      simp only [types_cons, ih, List.mem_cons, Ne.symm htype, false_or]
      split <;> rfl

theorem distinct_assign (h : Distinct before) (now type : String) (changes : List Change) :
    Distinct (assign now type changes before).1 := by
  rw [Distinct, types_assign]
  split
  · exact h
  · rename_i hnew
    simpa using List.Nodup.concat hnew h

/-! ### Placeholders -/

theorem ensureTypes_eq_append (now : String) (names : List String) (conditions : List Condition) :
    ∃ new, (ensureTypes now names conditions).1 = conditions ++ new ∧
      ∀ c ∈ new, ∃ type ∈ names, c = placeholder now type := by
  induction names generalizing conditions with
  | nil => exact ⟨[], (List.append_nil conditions).symm, by simp⟩
  | cons type rest ih =>
    rw [ensureTypes]
    cases find? conditions type with
    | some c =>
      obtain ⟨new, hnew, placeholders⟩ := ih conditions
      refine ⟨new, hnew, fun c hc => ?_⟩
      obtain ⟨other, hother, hplaceholder⟩ := placeholders c hc
      exact ⟨other, List.mem_cons_of_mem _ hother, hplaceholder⟩
    | none =>
      obtain ⟨new, hnew, placeholders⟩ := ih (conditions ++ [placeholder now type])
      refine ⟨placeholder now type :: new, by simpa using hnew, fun c hc => ?_⟩
      rcases List.mem_cons.1 hc with rfl | hc
      · exact ⟨type, List.mem_cons_self, rfl⟩
      · obtain ⟨other, hother, hplaceholder⟩ := placeholders c hc
        exact ⟨other, List.mem_cons_of_mem _ hother, hplaceholder⟩

theorem amended_ensureTypes (generation : Int64) (now : String) (conditions : List Condition) :
    Amended generation conditions (ensureTypes now declaredTypes conditions).1 := by
  obtain ⟨new, hnew, placeholders⟩ := ensureTypes_eq_append now declaredTypes conditions
  rw [hnew]
  apply Grown.append (fun _ => .inl rfl)
  intro c hc
  obtain ⟨type, declared, rfl⟩ := placeholders c hc
  exact ⟨declared, .inl ⟨now, rfl⟩⟩

theorem distinct_ensureTypes (h : Distinct before) (now : String) (names : List String) :
    Distinct (ensureTypes now names before).1 := by
  induction names generalizing before with
  | nil => exact h
  | cons type rest ih =>
    rw [ensureTypes]
    cases hfound : find? before type with
    | some c => exact ih h
    | none =>
      apply ih
      have hnew : type ∉ types before := by simp [← isSome_find?_iff, hfound]
      rw [Distinct, types_append]
      simpa using List.Nodup.concat hnew h

theorem complete_ensureTypes (now : String) (conditions : List Condition) :
    Complete (ensureTypes now declaredTypes conditions).1 := by
  intro type declared
  rw [← isSome_find?_iff]
  exact (find?_ensureTypes now declaredTypes conditions).2 type declared

end DynamicDns.Condition
