import DynamicDns.Proofs.Json.Exact
import DynamicDns.Proofs.Resource.Written

/-!
# Fields of records

A facet is a field of a record: it says how values are written, if at all, and how they are read off
the slot of the field. A lawful facet reads back what it wrote, and never writes `null` or an object;
so the merge patch between two written values leads from any slot that reads as the first value to
one that reads as the second, whatever else stood in the slot (`Lawful.read_changed`).
-/

namespace DynamicDns.Json

structure Facet (α : Type) where
  write : α → Option Json
  read : Slot → Option α

def slotOf : Option Json → Slot
  | some value => .given value
  | none => .missing

theorem slot_eq_slotOf (members : Members) (key : String) :
    slot members key = slotOf (members.get? key) := by
  unfold slot
  cases members.get? key <;> rfl

/-- A value that a merge patch puts in the place of any other: neither `null` nor an object, and the
same as another value only if it is equal to it. -/
structure Plain (value : Json) : Prop where
  not_null : value ≠ .null
  not_obj : ∀ members, value ≠ .obj members
  exact : value.Exact

theorem Plain.applyPatch {value : Json} (plain : value.Plain) (target : Json) :
    target.applyPatch value = value :=
  applyPatch_of_not_obj plain.not_obj target

theorem Plain.changed {value : Json} (plain : value.Plain) (old : Option Json) :
    Members.changed old (some value) = some value := by
  rw [Members.changed_of_ne_null plain.not_null, plain.applyPatch]

theorem Plain.diff {value : Json} (plain : value.Plain) (old : Json) : old.diff value = value :=
  diff_of_not_obj (.inr plain.not_obj)

namespace Facet

variable {α : Type} {field : Facet α}

structure Lawful (field : Facet α) : Prop where
  omitted : ∀ a, field.write a = none → field.read .missing = some a
  given : ∀ a value, field.write a = some value → field.read (.given value) = some a
  plain : ∀ a value, field.write a = some value → value.Plain

theorem Lawful.read_written (lawful : field.Lawful) (a : α) :
    field.read (slotOf (field.write a)) = some a := by
  cases hwrite : field.write a with
  | none => exact lawful.omitted a hwrite
  | some value => exact lawful.given a value hwrite

/-- The difference between two values of a field leaves a slot alone if they are equal, and turns it
into one of the second value if they are not. -/
theorem Lawful.read_difference [DecidableEq α] (lawful : field.Lawful) {old : Option Json} {z : α}
    (x y : α) (hread : field.read (slotOf old) = some z) :
    field.read (slotOf (Members.changed old
      (Members.difference (field.write x) (field.write y)))) = some (if x = y then z else y) := by
  have hx := lawful.read_written x
  have hy := lawful.read_written y
  by_cases hsame : x = y
  · subst y
    have hnone : Members.difference (field.write x) (field.write x) = none := by
      cases field.write x with
      | none => rfl
      | some value => exact if_pos (same_self value)
    rw [hnone, if_pos rfl]
    exact hread
  · rw [if_neg hsame]
    have hne (h : field.write x = field.write y) : False := by
      apply hsame
      rw [h] at hx
      exact Option.some.inj (hx.symm.trans hy)
    cases hnew : field.write y with
    | none =>
      cases hbefore : field.write x with
      | none => exact (hne (hbefore.trans hnew.symm)).elim
      | some before =>
        rw [hnew] at hy
        exact hy
    | some new =>
      have hplain := lawful.plain y new hnew
      have hdifference : Members.difference (field.write x) (some new) = some new := by
        cases hbefore : field.write x with
        | none => rfl
        | some before =>
          rw [Members.difference, if_neg, hplain.diff]
          intro hequal
          apply hne
          rw [hbefore, hnew, eq_of_same (lawful.plain x before hbefore).exact hequal]
      rw [hdifference, hplain.changed, ← hnew]
      exact hy

/-- The difference between two values of a field turns a slot of the one into a slot of the other. -/
theorem Lawful.read_changed (lawful : field.Lawful) {old : Option Json} {x : α} (y : α)
    (hread : field.read (slotOf old) = some x) :
    field.read (slotOf (Members.changed old
      (Members.difference (field.write x) (field.write y)))) = some y := by
  classical
  rw [lawful.read_difference x y hread]
  split
  · rename_i hsame
    rw [hsame]
  · rfl

/-! ### The fields that records have -/

def text : Facet String := ⟨fun a => some (.str a), Slot.required string?⟩

/-- A text that is left out where it is empty. -/
def shownText : Facet String := ⟨nonEmptyText?, Slot.defaulted "" string?⟩

def flag : Facet Bool := ⟨fun a => some (.bool a), Slot.defaulted false bool?⟩

def number (default : Int64) : Facet Int64 :=
  ⟨fun a => some (ofInt64 a), Slot.defaulted default toInt64?⟩

def optionalText : Facet (Option String) := ⟨Option.map .str, Slot.optional string?⟩

/-- A text that may also be missing behind the end of an array. -/
def trailingText : Facet (Option String) := ⟨Option.map .str, Slot.optionalDefaulted string?⟩

def optionalNumber : Facet (Option Int64) := ⟨Option.map ofInt64, Slot.optional toInt64?⟩

def items (α : Type) [Codec α] : Facet (List α) :=
  ⟨fun a => some (ofItems a), Slot.defaulted [] toItems?⟩

def shownItems (α : Type) [Codec α] : Facet (List α) :=
  ⟨fun a => if a.isEmpty then none else some (ofItems a), Slot.defaulted [] toItems?⟩

theorem plain_str (text : String) : (Json.str text).Plain :=
  ⟨Json.noConfusion, fun _ => Json.noConfusion, trivial⟩

theorem plain_bool (value : Bool) : (Json.bool value).Plain :=
  ⟨Json.noConfusion, fun _ => Json.noConfusion, trivial⟩

theorem plain_ofInt64 (value : Int64) : (ofInt64 value).Plain :=
  ⟨Json.noConfusion, fun _ => Json.noConfusion, trivial⟩

theorem lawful_text : text.Lawful where
  omitted a h := by simp [text] at h
  given a value h := by
    simp only [text, Option.some.injEq] at h
    subst h
    rfl
  plain a value h := by
    simp only [text, Option.some.injEq] at h
    exact h ▸ plain_str a

theorem lawful_shownText : shownText.Lawful where
  omitted a h := by
    have hempty : a = "" := by simpa [shownText, nonEmptyText?] using h
    rw [hempty]
    rfl
  given a value h := by
    have hvalue : ¬a = "" ∧ Json.str a = value := by simpa [shownText, nonEmptyText?] using h
    rw [← hvalue.2]
    rfl
  plain a value h := by
    have hvalue : ¬a = "" ∧ Json.str a = value := by simpa [shownText, nonEmptyText?] using h
    exact hvalue.2 ▸ plain_str a

theorem lawful_flag : flag.Lawful where
  omitted a h := by simp [flag] at h
  given a value h := by
    simp only [flag, Option.some.injEq] at h
    subst h
    rfl
  plain a value h := by
    simp only [flag, Option.some.injEq] at h
    exact h ▸ plain_bool a

theorem lawful_number (default : Int64) : (number default).Lawful where
  omitted a h := by simp [number] at h
  given a value h := by
    simp only [number, Option.some.injEq] at h
    subst h
    exact toInt64?_ofInt64 a
  plain a value h := by
    simp only [number, Option.some.injEq] at h
    exact h ▸ plain_ofInt64 a

theorem lawful_of_map {write : α → Json} {read : Json → Option α} {slots : Slot → Option (Option α)}
    (readable : ∀ a, read (write a) = some a) (plain : ∀ a, (write a).Plain)
    (missing : slots .missing = some none)
    (given : ∀ value, value ≠ .null → slots (.given value) = (read value).map some) :
    (⟨Option.map write, slots⟩ : Facet (Option α)).Lawful where
  omitted a h := by
    have hnone : a = none := by simpa using h
    rw [hnone]
    exact missing
  given a value h := by
    obtain ⟨b, rfl, rfl⟩ := Option.map_eq_some_iff.1 h
    change slots (.given (write b)) = some (some b)
    rw [given _ (plain b).not_null, readable, Option.map_some]
  plain a value h := by
    obtain ⟨b, -, rfl⟩ := Option.map_eq_some_iff.1 h
    exact plain b

theorem lawful_optionalText : optionalText.Lawful :=
  lawful_of_map (fun _ => rfl) plain_str rfl fun _ => Slot.optional_given string?

theorem lawful_trailingText : trailingText.Lawful := by
  have readable (a : String) : string? (.str a) = some a := rfl
  refine lawful_of_map readable plain_str rfl fun value h => ?_
  cases value
  case null => exact absurd rfl h
  all_goals rfl

theorem lawful_optionalNumber : optionalNumber.Lawful :=
  lawful_of_map toInt64?_ofInt64 plain_ofInt64 rfl fun _ => Slot.optional_given toInt64?

end Facet

end DynamicDns.Json

namespace DynamicDns

/-- A type whose values read back as they were written, and hold no floats. -/
class LawfulCodec (α : Type) [Codec α] : Prop where
  decode?_encode : ∀ a : α, Codec.decode? (Codec.encode a) = some a
  exact_encode : ∀ a : α, (Codec.encode a).Exact

namespace Json

variable {α : Type} [Codec α] [LawfulCodec α]

theorem toItems?_ofItems (items : List α) : toItems? (ofItems items) = some items := by
  change (items.map Codec.encode).mapM Codec.decode? = some items
  rw [List.mapM_map]
  induction items with
  | nil => rfl
  | cons head rest ih =>
    rw [List.mapM_cons, ih, Function.comp_apply, LawfulCodec.decode?_encode]
    rfl

theorem plain_ofItems (items : List α) : (ofItems items).Plain :=
  ⟨Json.noConfusion, fun _ => Json.noConfusion,
    exact_ofItems fun item _ => LawfulCodec.exact_encode item⟩

theorem Facet.lawful_items : (items α).Lawful where
  omitted a h := by simp [items] at h
  given a value h := by
    simp only [items, Option.some.injEq] at h
    subst h
    exact toItems?_ofItems a
  plain a value h := by
    simp only [items, Option.some.injEq] at h
    exact h ▸ plain_ofItems a

theorem Facet.lawful_shownItems : (shownItems α).Lawful where
  omitted a h := by
    have hempty : a = [] := by simpa [shownItems] using h
    rw [hempty]
    rfl
  given a value h := by
    have hvalue : ¬a = [] ∧ ofItems a = value := by simpa [shownItems] using h
    rw [← hvalue.2]
    exact toItems?_ofItems a
  plain a value h := by
    have hvalue : ¬a = [] ∧ ofItems a = value := by simpa [shownItems] using h
    exact hvalue.2 ▸ plain_ofItems a

end Json

end DynamicDns
