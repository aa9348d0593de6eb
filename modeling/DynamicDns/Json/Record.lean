import DynamicDns.Json.Basic

/-!
# Records in JSON

A record is written either as an object, whose unknown members are ignored, or as an array of its
fields in declaration order, which may stop early but not run over. `Json.record?` reads both forms
into one view, a slot per field name, and the field readers say what each slot may hold:

* `required`: the field is there and readable;
* `optional`: `null` and a missing member stand for no value, but an array has to reach the field;
* `defaulted`: a missing field takes its default, in either form, while `null` is a value like any
  other;
* `optionalDefaulted`: `null` and a missing field, in either form, stand for no value.
-/

namespace DynamicDns.Json

/-- What the written form of a record says of one field. -/
inductive Slot where
  | given (value : Json)
  | missing
  | beyond

/-- The slots of a record with the given fields, if the value has the form of such a record. -/
def record? (fields : List String) : Json → Option (String → Slot)
  | .obj members => some fun field =>
    match Members.get? members field with
    | some value => .given value
    | none => .missing
  | .arr items =>
    if items.length ≤ fields.length then
      some fun field =>
        match (fields.zip items).lookup field with
        | some value => .given value
        | none => .beyond
    else none
  | _ => none

/-- The slots of a record that is only ever written as an object. -/
def plainRecord? : Json → Option (String → Slot)
  | .obj members => (Json.obj members).record? []
  | _ => none

namespace Slot

variable {α : Type}

def required (read : Json → Option α) : Slot → Option α
  | .given value => read value
  | _ => none

def optional (read : Json → Option α) : Slot → Option (Option α)
  | .given .null => some none
  | .given value => (read value).map some
  | .missing => some none
  | .beyond => none

def defaulted (default : α) (read : Json → Option α) : Slot → Option α
  | .given value => read value
  | _ => some default

def optionalDefaulted (read : Json → Option α) : Slot → Option (Option α)
  | .given .null => some none
  | .given value => (read value).map some
  | _ => some none

end Slot

end DynamicDns.Json
