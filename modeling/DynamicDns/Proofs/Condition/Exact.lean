import DynamicDns.Proofs.Condition.Growth

/-!
# What the ledger reports

An assignment to a condition sets some of its slots. If no two assignments set one slot to different
values, they can be made in any order and any number of times: each slot holds what is assigned to it,
if anything is, and the ledger reports a change exactly if some slot is different in the end
(`Consistent.changed_iff`). Without this a slot can be set and set back, which the ledger reports too.

Missing types are added in the order in which they are first asked for, and nothing else is.
-/

namespace DynamicDns.Condition

/-! ### Slots -/

inductive Slot where
  | status
  | reason
  | message
  | observedGeneration
  deriving DecidableEq

inductive Content where
  | text (text : String)
  | generation (generation : Int64)
  deriving DecidableEq

def Slot.read : Slot → Condition → Option Content
  | .status, c => some (.text c.status)
  | .reason, c => c.reason.map .text
  | .message, c => c.message.map .text
  | .observedGeneration, c => c.observedGeneration.map .generation

def Change.sets? : Change → Slot → Option Content
  | .reason text, .reason => some (.text text)
  | .message text, .message => some (.text text)
  | .reasonAndMessage code _, .reason => some (.text code)
  | .reasonAndMessage _ text, .message => some (.text text)
  | .hold, .status => some (.text statusTrue)
  | .fail, .status => some (.text statusFalse)
  | .observed generation, .observedGeneration => some (.generation generation)
  | _, _ => none

variable {c c' : Condition} {change : Change} {changes : List Change} {slot : Slot}
  {content : Content}

theorem read_apply (change : Change) (slot : Slot) (c : Condition) :
    slot.read (change.apply c) = (change.sets? slot).or (slot.read c) := by
  cases change <;> cases slot <;> rfl

/-- A condition is known by its type, its time and its slots. -/
theorem eq_of_read_eq (htype : c.type = c'.type)
    (htime : c.lastTransitionTime = c'.lastTransitionTime)
    (hread : ∀ slot : Slot, slot.read c = slot.read c') : c = c' := by
  obtain ⟨type, status, reason, message, generation, time⟩ := c
  obtain ⟨type', status', reason', message', generation', time'⟩ := c'
  have hstatus := hread .status
  have hreason := hread .reason
  have hmessage := hread .message
  have hgeneration := hread .observedGeneration
  have htext : Function.Injective Content.text := fun _ _ => Content.text.inj
  have hnumber : Function.Injective Content.generation := fun _ _ => Content.generation.inj
  simp only [Slot.read, Option.some.injEq, Content.text.injEq, (Option.map_injective htext).eq_iff,
    (Option.map_injective hnumber).eq_iff] at hstatus hreason hmessage hgeneration
  simp_all

theorem type_apply (change : Change) (c : Condition) : (change.apply c).type = c.type := by
  cases change <;> rfl

theorem time_apply (change : Change) (c : Condition) :
    (change.apply c).lastTransitionTime = c.lastTransitionTime := by
  cases change <;> rfl

theorem time_applyAll (changes : List Change) (c : Condition) :
    (applyAll changes c).1.lastTransitionTime = c.lastTransitionTime := by
  induction changes generalizing c with
  | nil => rfl
  | cons change rest ih => exact (ih (change.apply c)).trans (time_apply change c)

/-- An assignment leaves a condition as it is if its slots hold what they are set to. -/
theorem apply_eq_self_iff :
    change.apply c = c ↔ ∀ slot content, change.sets? slot = some content → slot.read c = some content := by
  constructor
  · intro h slot content hsets
    rw [← h, read_apply, hsets, Option.some_or]
  · intro h
    apply eq_of_read_eq (type_apply change c) (time_apply change c)
    intro slot
    rw [read_apply]
    cases hsets : change.sets? slot with
    | none => rfl
    | some content => rw [h slot content hsets, Option.some_or]

theorem read_applyAll_of_unset (h : ∀ change ∈ changes, change.sets? slot = none) (c : Condition) :
    slot.read (applyAll changes c).1 = slot.read c := by
  induction changes generalizing c with
  | nil => rfl
  | cons change rest ih =>
    obtain ⟨hfirst, hrest⟩ := List.forall_mem_cons.1 h
    change slot.read (applyAll rest (change.apply c)).1 = _
    rw [ih hrest, read_apply, hfirst, Option.none_or]

/-! ### Assignments that agree -/

/-- No slot is set to different values. -/
def Consistent (changes : List Change) : Prop :=
  ∀ change ∈ changes, ∀ other ∈ changes, ∀ slot content content',
    change.sets? slot = some content → other.sets? slot = some content' → content = content'

namespace Consistent

theorem tail (h : Consistent (change :: changes)) : Consistent changes :=
  fun other hother other' hother' =>
    h other (List.mem_cons_of_mem _ hother) other' (List.mem_cons_of_mem _ hother')

theorem read_applyAll (h : Consistent changes) (hmem : change ∈ changes)
    (hsets : change.sets? slot = some content) (c : Condition) :
    slot.read (applyAll changes c).1 = some content := by
  induction changes generalizing c change content with
  | nil => cases hmem
  | cons head rest ih =>
    change slot.read (applyAll rest (head.apply c)).1 = _
    -- Whatever of the rest sets the slot sets it to the same, so the last that does can be taken
    by_cases hrest : ∃ other ∈ rest, other.sets? slot ≠ none
    · obtain ⟨other, hother, hne⟩ := hrest
      obtain ⟨content', hsets'⟩ := Option.ne_none_iff_exists'.1 hne
      have hsame := h change hmem other (List.mem_cons_of_mem _ hother) slot _ _ hsets hsets'
      rw [hsame]
      exact ih h.tail hother hsets' (head.apply c)
    · have hunset : ∀ other ∈ rest, other.sets? slot = none := by simpa using hrest
      rcases List.mem_cons.1 hmem with rfl | hmem
      · rw [read_applyAll_of_unset hunset, read_apply, hsets, Option.some_or]
      · rw [hunset change hmem] at hsets
        cases hsets

theorem settling (h : Consistent changes) : Settling changes := by
  intro c time change hmem
  rw [apply_eq_self_iff]
  intro slot content hsets
  have hread := h.read_applyAll hmem hsets c
  cases slot <;> exact hread

/-- Assignments that agree are reported exactly if a slot is different in the end. -/
theorem changed_iff (h : Consistent changes) (c : Condition) :
    (applyAll changes c).2 = true ↔
      ∃ slot : Slot, slot.read (applyAll changes c).1 ≠ slot.read c := by
  constructor
  · intro changed
    by_contra same
    have hsame : (applyAll changes c).1 = c :=
      eq_of_read_eq (type_applyAll changes c) (time_applyAll changes c) (by simpa using same)
    have hmeets : Meets changes c := fun change hmem => apply_eq_self_iff.2 fun slot content hsets =>
      hsame ▸ h.read_applyAll hmem hsets c
    rw [applyAll_of_meets hmeets] at changed
    cases changed
  · rintro ⟨slot, hne⟩
    by_contra unchanged
    have hmeets := meets_of_unchanged (Bool.eq_false_iff.2 unchanged)
    rw [applyAll_of_meets hmeets] at hne
    exact hne rfl

end Consistent

/-! ### One condition of a ledger -/

/-- In a ledger the first condition of a type is replaced, or one is added at the end if there is none. -/
inductive Writes (type : String) : Option Condition → Condition → List Condition → List Condition → Prop
  | first {front back : List Condition} {c c' : Condition} (fresh : type ∉ types front)
    (same : c.type = type) (same' : c'.type = type) :
    Writes type (some c) c' (front ++ c :: back) (front ++ c' :: back)
  | added {front : List Condition} {c' : Condition} (fresh : type ∉ types front)
    (same' : c'.type = type) : Writes type none c' front (front ++ [c'])

variable {type now : String} {found : Option Condition} {before after conditions : List Condition}

theorem Writes.cons (h : Writes type found c' before after) (hne : c.type ≠ type) :
    Writes type found c' (c :: before) (c :: after) := by
  have fresh {front : List Condition} (hfresh : type ∉ types front) : type ∉ types (c :: front) := by
    simp [hfresh, hne.symm]
  cases h with
  | first hfresh same same' => exact .first (fresh hfresh) same same'
  | added hfresh same' => exact .added (fresh hfresh) same'

/-- Assignments are written to the first condition of a type, or to a placeholder. They count as a
change if there was none, or if one of them changed it; the time moves exactly then. -/
theorem writes_assign (now type : String) (changes : List Change) (conditions : List Condition) :
    ∃ c, Writes type (find? conditions type) c conditions (assign now type changes conditions).1 ∧
      ((assign now type changes conditions).2 = true ↔ find? conditions type = none ∨
        (applyAll changes ((find? conditions type).getD (placeholder now type))).2 = true) ∧
      c = { (applyAll changes ((find? conditions type).getD (placeholder now type))).1 with
        lastTransitionTime := if (assign now type changes conditions).2 then some now
          else ((find? conditions type).getD (placeholder now type)).lastTransitionTime } := by
  induction conditions with
  | nil => exact ⟨_, .added (by simp) (type_applyAll changes _), by simp [assign, find?], rfl⟩
  | cons head rest ih =>
    rw [assign, find?_cons]
    by_cases htype : head.type = type
    · rw [if_pos htype, if_pos htype]
      simp only [Option.getD_some, reduceCtorEq, false_or]
      cases hchanged : (applyAll changes head).2 with
      | true =>
        have htype' := (type_applyAll changes head).trans htype
        exact ⟨_, .first (show type ∉ types [] by simp) htype htype', by simp, rfl⟩
      | false =>
        have hsame := applyAll_of_meets (meets_of_unchanged hchanged)
        refine ⟨head, .first (show type ∉ types [] by simp) htype htype, by simp, ?_⟩
        rw [hsame]
        rfl
    · rw [if_neg htype, if_neg htype]
      obtain ⟨c, writes, changed, hc⟩ := ih
      exact ⟨c, writes.cons htype, changed, hc⟩

/-! ### Placeholders -/

/-- Adds a placeholder for each type that is missing, where the clock is read for each type anew. -/
def ensureEach : List (String × String) → List Condition → List Condition × Bool
  | [], conditions => (conditions, false)
  | (now, type) :: rest, conditions =>
    let (first, added) := ensureTypes now [type] conditions
    let (final, more) := ensureEach rest first
    (final, added || more)

theorem ensureTypes_singleton (now type : String) (conditions : List Condition) :
    ensureTypes now [type] conditions =
      if type ∈ types conditions then (conditions, false)
      else (conditions ++ [placeholder now type], true) := by
  simp only [← isSome_find?_iff, ensureTypes]
  cases find? conditions type <;> rfl

/-- Reading the clock once is reading the same time for all types. -/
theorem ensureTypes_eq_ensureEach (now : String) (names : List String)
    (conditions : List Condition) :
    ensureTypes now names conditions = ensureEach (names.map (now, ·)) conditions := by
  induction names generalizing conditions with
  | nil => rfl
  | cons type rest ih =>
    rw [List.map_cons, ensureEach, ensureTypes_singleton, ensureTypes]
    simp only [← isSome_find?_iff]
    cases find? conditions type <;> simp [ih]

theorem ensureEach_of_known {readings : List (String × String)}
    (h : ∀ reading ∈ readings, reading.2 ∈ types conditions) :
    ensureEach readings conditions = (conditions, false) := by
  induction readings with
  | nil => rfl
  | cons reading rest ih =>
    obtain ⟨hfirst, hrest⟩ := List.forall_mem_cons.1 h
    obtain ⟨now, type⟩ := reading
    rw [ensureEach, ensureTypes_singleton, if_pos hfirst]
    simp [ih hrest]

def missing (names : List String) (conditions : List Condition) : List String :=
  (names.filter (· ∉ types conditions)).eraseDups

theorem mem_missing {names : List String} :
    type ∈ missing names conditions ↔ type ∈ names ∧ type ∉ types conditions := by
  simp [missing, List.mem_eraseDups]

theorem missing_cons (type : String) (names : List String) (conditions : List Condition) (now : String) :
    missing (type :: names) conditions =
      if type ∈ types conditions then missing names conditions
      else type :: missing names (conditions ++ [placeholder now type]) := by
  split
  · rename_i known
    simp [missing, known]
  · rename_i unknown
    rw [missing, List.filter_cons_of_pos (by simpa using unknown), List.eraseDups_cons,
      List.filter_filter, missing]
    congr 3
    funext other
    simp [beq_eq_decide, Bool.and_comm]

/-- The list stays as it is, and a placeholder is added for each type that is missing, in order. -/
theorem ensureEach_eq_append (readings : List (String × String)) (conditions : List Condition) :
    ∃ new, ensureEach readings conditions = (conditions ++ new, !new.isEmpty) ∧
      types new = missing (readings.map Prod.snd) conditions ∧
      ∀ c ∈ new, ∃ now, (now, c.type) ∈ readings ∧ c = placeholder now c.type := by
  induction readings generalizing conditions with
  | nil => exact ⟨[], by simp [ensureEach], rfl, by simp⟩
  | cons reading rest ih =>
    obtain ⟨now, type⟩ := reading
    rw [ensureEach, ensureTypes_singleton, List.map_cons, missing_cons _ _ _ now]
    by_cases known : type ∈ types conditions
    · obtain ⟨new, hnew, htypes, placeholders⟩ := ih conditions
      rw [if_pos known, if_pos known]
      refine ⟨new, by simp [hnew], htypes, fun c hc => ?_⟩
      obtain ⟨now', hreading, hplaceholder⟩ := placeholders c hc
      exact ⟨now', List.mem_cons_of_mem _ hreading, hplaceholder⟩
    · obtain ⟨new, hnew, htypes, placeholders⟩ := ih (conditions ++ [placeholder now type])
      rw [if_neg known, if_neg known]
      refine ⟨placeholder now type :: new, by simp [hnew], by simp [htypes], fun c hc => ?_⟩
      rcases List.mem_cons.1 hc with rfl | hc
      · exact ⟨now, List.mem_cons_self, rfl⟩
      · obtain ⟨now', hreading, hplaceholder⟩ := placeholders c hc
        exact ⟨now', List.mem_cons_of_mem _ hreading, hplaceholder⟩

/-! ### What is reported -/

/-- What assignments that agree make of a condition: it is different exactly if that is reported, each
slot holds what it is set to, and the others are left alone. -/
structure Meant (changes : List Change) (changed fresh : Bool) (start c : Condition) : Prop where
  reported : changed = true ↔ fresh = true ∨ ∃ slot : Slot, slot.read c ≠ slot.read start
  assigned : ∀ change ∈ changes, ∀ slot content, change.sets? slot = some content →
    slot.read c = some content
  unassigned : ∀ slot : Slot, (∀ change ∈ changes, change.sets? slot = none) →
    slot.read c = slot.read start

/-- Assigning writes the first condition of a type only, which is a placeholder at the end if there
was none, and its time moves exactly if a change is reported; if none is, the ledger is as it was.
Where the assignments agree, a change is reported exactly if the type was missing or a slot is
different in the end, and they change nothing if they are made once more. Asking for types adds a
placeholder for each that is missing, in order, reports exactly if there is one, and adds nothing if
the types are asked for once more. -/
theorem reports_exactly (conditions : List Condition) :
    (∀ (now type : String) (changes : List Change),
      ∃ after changed start c, assign now type changes conditions = (after, changed) ∧
        start = (find? conditions type).getD (placeholder now type) ∧
        Writes type (find? conditions type) c conditions after ∧
        c.lastTransitionTime = (if changed then some now else start.lastTransitionTime) ∧
        (changed = false → after = conditions) ∧
        (Consistent changes →
          Meant changes changed (find? conditions type).isNone start c ∧
          ∀ later, assign later type changes after = (after, false))) ∧
    (∀ readings : List (String × String), ∃ new,
      ensureEach readings conditions = (conditions ++ new, !new.isEmpty) ∧
      types new = missing (readings.map Prod.snd) conditions ∧
      (∀ c ∈ new, ∃ now, (now, c.type) ∈ readings ∧ c = placeholder now c.type) ∧
      ∀ later : List (String × String), later.map Prod.snd = readings.map Prod.snd →
        ensureEach later (conditions ++ new) = (conditions ++ new, false)) ∧
    ∀ (now : String) (names : List String),
      ensureTypes now names conditions = ensureEach (names.map (now, ·)) conditions := by
  refine ⟨?_, ?_, fun now names => ensureTypes_eq_ensureEach now names conditions⟩
  · intro now type changes
    obtain ⟨c, writes, hchanged, hc⟩ := writes_assign now type changes conditions
    generalize (find? conditions type).getD (placeholder now type) = start at hchanged hc
    have hread (slot : Slot) : slot.read c = slot.read (applyAll changes start).1 := by
      rw [hc]
      cases slot <;> rfl
    refine ⟨_, _, start, c, rfl, rfl, writes, ?_, assign_of_unchanged, ?_⟩
    · rw [hc]
    · intro consistent
      have shows := shows_assign consistent.settling now type conditions
      refine ⟨⟨?_, ?_, ?_⟩, shows.assign_eq⟩
      · simp only [hchanged, consistent.changed_iff start, hread, Option.isNone_iff_eq_none]
      · intro change hmem slot content hsets
        rw [hread, consistent.read_applyAll hmem hsets]
      · intro slot hunset
        rw [hread, read_applyAll_of_unset hunset]
  · intro readings
    obtain ⟨new, hnew, htypes, placeholders⟩ := ensureEach_eq_append readings conditions
    refine ⟨new, hnew, htypes, placeholders, fun later hlater => ?_⟩
    apply ensureEach_of_known
    intro reading hreading
    have hasked : reading.2 ∈ readings.map Prod.snd := hlater ▸ List.mem_map_of_mem hreading
    rw [types_append, List.mem_append, htypes, mem_missing]
    by_cases known : reading.2 ∈ types conditions
    · exact .inl known
    · exact .inr ⟨hasked, known⟩

/-- The second of two conditions of one type is left alone, and so are both the second time. -/
theorem reports_duplicates_exactly :
    Consistent [.reasonAndMessage "Found" "here", .hold, .message "here"] ∧
    ∃ after, assign "2026" "Secret" [.reasonAndMessage "Found" "here", .hold, .message "here"]
        [placeholder "2025" "Secret", placeholder "2025" "Secret"] = (after, true) ∧
      after[1]? = some (placeholder "2025" "Secret") ∧
      assign "2027" "Secret" [.reasonAndMessage "Found" "here", .hold, .message "here"] after =
        (after, false) := by
  have consistent : Consistent [.reasonAndMessage "Found" "here", .hold, .message "here"] := by
    intro change hmem other hother slot content content' hsets hsets'
    simp only [List.mem_cons, List.not_mem_nil, or_false] at hmem hother
    rcases hmem with rfl | rfl | rfl <;> rcases hother with rfl | rfl | rfl <;> cases slot <;>
      simp_all [Change.sets?]
  obtain ⟨after, changed, start, c, hassign, -, -, -, -, meant⟩ :=
    (reports_exactly [placeholder "2025" "Secret", placeholder "2025" "Secret"]).1 "2026" "Secret"
      [.reasonAndMessage "Found" "here", .hold, .message "here"]
  have again := (meant consistent).2 "2027"
  obtain ⟨rfl, rfl⟩ := Prod.mk.inj hassign
  exact ⟨consistent, _, rfl, rfl, again⟩

end DynamicDns.Condition
