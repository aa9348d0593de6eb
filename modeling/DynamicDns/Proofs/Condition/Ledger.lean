import DynamicDns.Condition.Ledger
import DynamicDns.Pass.Status
import Mathlib.Logic.Basic

/-!
# What the ledger keeps

The ledger is read through the first condition of a type. Assigning to a type changes what is found
under that type and nothing else, and says that nothing changed only where nothing did. A condition
meets assignments that would leave it as it is; a ledger whose condition meets them is left alone by
them, at any time. What passes assign is met once it was assigned (`shows_assign`).
-/

namespace DynamicDns.Condition

def Meets (changes : List Change) (c : Condition) : Prop := ∀ change ∈ changes, change.apply c = c

theorem applyAll_of_meets {changes : List Change} {c : Condition} (h : Meets changes c) :
    applyAll changes c = (c, false) := by
  induction changes with
  | nil => rfl
  | cons change rest ih =>
    have hfirst : change.apply c = c := h change List.mem_cons_self
    have hrest := ih fun other hother => h other (List.mem_cons_of_mem _ hother)
    simp [applyAll, hfirst, hrest]

theorem meets_of_unchanged {changes : List Change} {c : Condition}
    (h : (applyAll changes c).2 = false) : Meets changes c := by
  induction changes with
  | nil => simp [Meets]
  | cons change rest ih =>
    have hsplit : change.apply c = c ∧ (applyAll rest (change.apply c)).2 = false := by
      simpa [applyAll] using h
    intro other hother
    rcases List.mem_cons.1 hother with rfl | hother
    · exact hsplit.1
    · exact ih (hsplit.1 ▸ hsplit.2) other hother

theorem type_applyAll (changes : List Change) (c : Condition) :
    (applyAll changes c).1.type = c.type := by
  induction changes generalizing c with
  | nil => rfl
  | cons change rest ih =>
    have hchange : (change.apply c).type = c.type := by cases change <;> rfl
    exact (ih (change.apply c)).trans hchange

/-! ### One condition -/

theorem find?_cons (c : Condition) (rest : List Condition) (type : String) :
    find? (c :: rest) type = if c.type = type then some c else find? rest type := by
  by_cases h : c.type = type <;> simp [find?, h]

theorem assign_of_unchanged {now type : String} {changes : List Change}
    {conditions : List Condition} (h : (assign now type changes conditions).2 = false) :
    (assign now type changes conditions).1 = conditions := by
  induction conditions with
  | nil => simp [assign] at h
  | cons c rest ih =>
    rw [assign] at h ⊢
    by_cases htype : c.type = type
    · rw [if_pos htype] at h ⊢
      dsimp only at h ⊢
      split at h
      · cases h
      · rename_i hunchanged
        rw [if_neg hunchanged]
    · rw [if_neg htype] at h ⊢
      exact congrArg (List.cons c) (ih h)

theorem meets_of_assign_unchanged {now type : String} {changes : List Change}
    {conditions : List Condition} (h : (assign now type changes conditions).2 = false) :
    ∃ c, find? conditions type = some c ∧ Meets changes c := by
  induction conditions with
  | nil => simp [assign] at h
  | cons c rest ih =>
    rw [assign] at h
    rw [find?_cons]
    by_cases htype : c.type = type
    · rw [if_pos htype] at h ⊢
      dsimp only at h
      split at h
      · cases h
      · rename_i hunchanged
        exact ⟨c, rfl, meets_of_unchanged (Bool.eq_false_iff.2 hunchanged)⟩
    · rw [if_neg htype] at h ⊢
      exact ih h

/-- A condition that meets the assignments is left alone, and so is the whole ledger. -/
theorem assign_of_meets {now type : String} {changes : List Change} {conditions : List Condition}
    {c : Condition} (found : find? conditions type = some c) (h : Meets changes c) :
    assign now type changes conditions = (conditions, false) := by
  induction conditions with
  | nil => simp [find?] at found
  | cons head rest ih =>
    rw [find?_cons] at found
    rw [assign]
    by_cases htype : head.type = type
    · rw [if_pos htype] at found ⊢
      cases found
      simp [applyAll_of_meets h]
    · rw [if_neg htype] at found ⊢
      simp [ih found]

/-- What is found under a type after assignments to it: what was found, or a placeholder, with the
assignments made. -/
theorem find?_assign (now type : String) (changes : List Change) (conditions : List Condition) :
    ∃ time, find? (assign now type changes conditions).1 type =
      some { (applyAll changes ((find? conditions type).getD (placeholder now type))).1 with
        lastTransitionTime := time } := by
  induction conditions with
  | nil =>
    refine ⟨some now, ?_⟩
    rw [assign, find?_cons, if_pos]
    · rfl
    · exact type_applyAll changes (placeholder now type)
  | cons c rest ih =>
    rw [assign, find?_cons]
    by_cases htype : c.type = type
    · rw [if_pos htype, if_pos htype]
      dsimp only
      split
      · refine ⟨some now, ?_⟩
        rw [find?_cons, if_pos]
        · rfl
        · exact (type_applyAll changes c).trans htype
      · rename_i hunchanged
        have hmeets := meets_of_unchanged (Bool.eq_false_iff.2 hunchanged)
        refine ⟨c.lastTransitionTime, ?_⟩
        rw [find?_cons, if_pos htype, Option.getD_some, applyAll_of_meets hmeets]
    · obtain ⟨time, htime⟩ := ih
      refine ⟨time, ?_⟩
      rw [if_neg htype, if_neg htype]
      dsimp only
      rw [find?_cons, if_neg htype, htime]

theorem find?_assign_of_ne {type other : String} (hne : type ≠ other) (now : String)
    (changes : List Change) (conditions : List Condition) :
    find? (assign now type changes conditions).1 other = find? conditions other := by
  induction conditions with
  | nil =>
    have htype : (applyAll changes (placeholder now type)).1.type ≠ other :=
      (type_applyAll changes (placeholder now type)).trans_ne hne
    rw [assign, find?_cons, if_neg htype]
  | cons c rest ih =>
    rw [assign, find?_cons]
    by_cases htype : c.type = type
    · have hother : c.type ≠ other := htype.trans_ne hne
      rw [if_pos htype, if_neg hother]
      dsimp only
      split
      · have hfinal : (applyAll changes c).1.type ≠ other :=
          (type_applyAll changes c).trans_ne hother
        rw [find?_cons, if_neg hfinal]
      · rw [find?_cons, if_neg hother]
    · rw [if_neg htype]
      dsimp only
      rw [find?_cons, ih]

/-! ### Placeholders -/

theorem ensureTypes_of_unchanged {now : String} {types : List String} {conditions : List Condition}
    (h : (ensureTypes now types conditions).2 = false) :
    (ensureTypes now types conditions).1 = conditions := by
  induction types generalizing conditions with
  | nil => rfl
  | cons type rest ih =>
    rw [ensureTypes] at h ⊢
    cases hfound : find? conditions type with
    | none => simp [hfound] at h
    | some c =>
      simp only [hfound] at h ⊢
      exact ih h

theorem find?_append_placeholder (conditions : List Condition) (now type other : String) :
    find? (conditions ++ [placeholder now type]) other =
      (find? conditions other).or (if type = other then some (placeholder now type) else none) := by
  induction conditions with
  | nil => simp [find?, placeholder]
  | cons c rest ih =>
    rw [List.cons_append, find?_cons, find?_cons, ih]
    split <;> rfl

/-- What is found stays, and the given types are found. -/
theorem find?_ensureTypes (now : String) (types : List String) (conditions : List Condition) :
    (∀ type c, find? conditions type = some c →
      find? (ensureTypes now types conditions).1 type = some c) ∧
    ∀ type ∈ types, (find? (ensureTypes now types conditions).1 type).isSome := by
  induction types generalizing conditions with
  | nil => simp [ensureTypes]
  | cons head rest ih =>
    rw [ensureTypes]
    cases hfound : find? conditions head with
    | some c =>
      obtain ⟨stays, known⟩ := ih conditions
      refine ⟨stays, fun type htype => ?_⟩
      rcases List.mem_cons.1 htype with rfl | htype
      · exact Option.isSome_iff_exists.2 ⟨c, stays type c hfound⟩
      · exact known type htype
    | none =>
      obtain ⟨stays, known⟩ := ih (conditions ++ [placeholder now head])
      refine ⟨fun type c hc => stays type c ?_, fun type htype => ?_⟩
      · rw [find?_append_placeholder, hc]
        rfl
      · rcases List.mem_cons.1 htype with rfl | htype
        · refine Option.isSome_iff_exists.2 ⟨placeholder now type, stays _ _ ?_⟩
          rw [find?_append_placeholder, hfound, if_pos rfl]
          rfl
        · exact known type htype

theorem ensureTypes_of_known {now : String} {types : List String} {conditions : List Condition}
    (h : ∀ type ∈ types, (find? conditions type).isSome) :
    ensureTypes now types conditions = (conditions, false) := by
  induction types with
  | nil => rfl
  | cons type rest ih =>
    obtain ⟨c, hfound⟩ := Option.isSome_iff_exists.1 (h type List.mem_cons_self)
    rw [ensureTypes, hfound]
    exact ih fun other hother => h other (List.mem_cons_of_mem _ hother)

/-! ### What passes assign -/

open Pass (holds fails)

theorem meets_holds {reason message : String} {generation : Int64} {c : Condition} :
    Meets (holds reason message ++ [.observed generation]) c ↔
      c.status = statusTrue ∧ c.reason = some reason ∧ c.message = some message ∧
        c.observedGeneration = some generation := by
  obtain ⟨_, _, _, _, _, _⟩ := c
  simp [Meets, holds, Change.apply, eq_comm, and_assoc]

theorem meets_fails {reason message : String} {generation : Int64} {c : Condition} :
    Meets (fails reason message ++ [.observed generation]) c ↔
      c.status = statusFalse ∧ c.reason = some reason ∧ c.message = some message ∧
        c.observedGeneration = some generation := by
  obtain ⟨_, _, _, _, _, _⟩ := c
  simp [Meets, fails, Change.apply, eq_comm, and_assoc]

theorem meets_hold {generation : Int64} {c : Condition} :
    Meets ([.hold] ++ [.observed generation]) c ↔
      c.status = statusTrue ∧ c.observedGeneration = some generation := by
  obtain ⟨_, _, _, _, _, _⟩ := c
  simp [Meets, Change.apply, eq_comm]

/-- Assignments that are met once they were made, whenever that was. -/
def Settling (changes : List Change) : Prop :=
  ∀ c time, Meets changes { (applyAll changes c).1 with lastTransitionTime := time }

theorem settling_holds (reason message : String) (generation : Int64) :
    Settling (holds reason message ++ [.observed generation]) :=
  fun _ _ => meets_holds.2 ⟨rfl, rfl, rfl, rfl⟩

theorem settling_fails (reason message : String) (generation : Int64) :
    Settling (fails reason message ++ [.observed generation]) :=
  fun _ _ => meets_fails.2 ⟨rfl, rfl, rfl, rfl⟩

theorem settling_hold (generation : Int64) : Settling ([.hold] ++ [.observed generation]) :=
  fun _ _ => meets_hold.2 ⟨rfl, rfl⟩

def Shows (conditions : List Condition) (type : String) (changes : List Change) : Prop :=
  ∃ c, find? conditions type = some c ∧ Meets changes c

theorem shows_assign {changes : List Change} (settling : Settling changes) (now type : String)
    (conditions : List Condition) : Shows (assign now type changes conditions).1 type changes := by
  obtain ⟨time, found⟩ := find?_assign now type changes conditions
  exact ⟨_, found, settling _ time⟩

namespace Shows

variable {conditions : List Condition} {type : String} {changes : List Change}

theorem assign_eq (h : Shows conditions type changes) (now : String) :
    assign now type changes conditions = (conditions, false) := by
  obtain ⟨c, found, meets⟩ := h
  exact assign_of_meets found meets

theorem assign_of_ne (h : Shows conditions type changes) {other : String} (hne : other ≠ type)
    (now : String) (changes' : List Change) :
    Shows (assign now other changes' conditions).1 type changes := by
  obtain ⟨c, found, meets⟩ := h
  exact ⟨c, (find?_assign_of_ne hne now changes' conditions).trans found, meets⟩

theorem hold {reason message : String} {generation : Int64}
    (h : Shows conditions type (holds reason message ++ [.observed generation])) :
    Shows conditions type ([.hold] ++ [.observed generation]) := by
  obtain ⟨c, found, meets⟩ := h
  obtain ⟨hstatus, -, -, hgeneration⟩ := meets_holds.1 meets
  exact ⟨c, found, meets_hold.2 ⟨hstatus, hgeneration⟩⟩

end Shows

end DynamicDns.Condition
