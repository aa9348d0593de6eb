import DynamicDns.Proofs.Json.Exact

/-!
# Values that records are written with

A record is written with texts, flags, integers, lists and objects alone. Neither a float nor a `null`
occurs anywhere in such a value. So it is the same as another value only if the two are equal, and a
merge patch does not take any part of it for a removal.
-/

namespace DynamicDns.Json

/-- Texts, flags, integers, and lists and objects of such values. -/
inductive Solid : Json → Prop where
  | str (text : String) : Solid (.str text)
  | bool (value : Bool) : Solid (.bool value)
  | int (value : Int) : Solid (.int value)
  | arr {items : List Json} (inside : ∀ item ∈ items, Solid item) : Solid (.arr items)
  | obj {members : Members} (inside : ∀ entry ∈ members, Solid entry.2) : Solid (.obj members)

inductive Occurs (part : Json) : Json → Prop where
  | here : Occurs part part
  | item {items : List Json} {item : Json} (mem : item ∈ items) (inside : Occurs part item) :
    Occurs part (.arr items)
  | member {members : Members} {entry : String × Json} (mem : entry ∈ members)
    (inside : Occurs part entry.2) : Occurs part (.obj members)

theorem Solid.exact {value : Json} (solid : value.Solid) : value.Exact := by
  induction solid with
  | str | bool | int => trivial
  | arr _ ih =>
    rw [Exact, exactItems_iff]
    exact ih
  | obj _ ih =>
    rw [Exact, exactMembers_iff]
    exact ih

theorem Solid.of_occurs {part value : Json} (solid : value.Solid) (occurs : Occurs part value) :
    part.Solid := by
  induction occurs with
  | here => exact solid
  | item mem _ ih =>
    cases solid with
    | arr inside => exact ih (inside _ mem)
  | member mem _ ih =>
    cases solid with
    | obj inside => exact ih (inside _ mem)

theorem Solid.not_occurs_null {value : Json} (solid : value.Solid) : ¬Occurs .null value := by
  intro occurs
  cases solid.of_occurs occurs

/-! ### Solid values out of solid values -/

theorem solid_ofInt64 (value : Int64) : (ofInt64 value).Solid := .int value.toInt

theorem solid_ofItems {α : Type} [Codec α] (solid : ∀ a : α, (Codec.encode a).Solid) (items : List α) :
    (ofItems items).Solid :=
  .arr (List.forall_mem_map.2 fun item _ => solid item)

theorem solid_object {members : List (String × Json)} (h : ∀ entry ∈ members, entry.2.Solid) :
    (object members).Solid :=
  .obj fun entry hentry => h entry (Members.mem_ofList hentry)

theorem solid_member? (key : String) {value : Option Json} (h : ∀ v ∈ value, v.Solid) :
    ∀ entry ∈ member? key value, entry.2.Solid := by
  cases value with
  | none => exact fun _ => nofun
  | some v => exact List.forall_mem_singleton.2 (h v rfl)

theorem solid_map {α : Type} {write : α → Json} (solid : ∀ a, (write a).Solid) (value : Option α) :
    ∀ v ∈ value.map write, v.Solid := by
  intro v hv
  obtain ⟨a, -, rfl⟩ := Option.map_eq_some_iff.1 hv
  exact solid a

/-- A value that is left out in some case. -/
theorem solid_ite {omitted : Prop} [Decidable omitted] {value : Json} (solid : value.Solid) :
    ∀ v ∈ (if omitted then none else some value : Option Json), v.Solid := by
  intro v hv
  obtain ⟨-, hvalue⟩ := Option.mem_ite_none_left.1 hv
  rwa [← Option.some.inj hvalue]

end DynamicDns.Json
