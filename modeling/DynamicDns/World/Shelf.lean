import DynamicDns.Resource.Reference

/-!
# Objects by key

Objects of one kind are kept by namespace and name, in the order of their keys. `get?` is the view,
and `get?_put` says what storing an object does to it.
-/

namespace DynamicDns

abbrev Shelf (α : Type) := List (ObjectKey × α)

namespace Shelf

variable {α : Type}

def get? : Shelf α → ObjectKey → Option α
  | [], _ => none
  | (k, v) :: rest, key => if k = key then some v else get? rest key

def put (key : ObjectKey) (value : α) : Shelf α → Shelf α
  | [] => [(key, value)]
  | (k, v) :: rest =>
    if key = k then (key, value) :: rest
    else if key.before k then (key, value) :: (k, v) :: rest
    else (k, v) :: put key value rest

def remove (key : ObjectKey) (shelf : Shelf α) : Shelf α := shelf.filter fun entry => entry.1 ≠ key

/-- The objects, in key order. -/
def values (shelf : Shelf α) : List α := shelf.map (·.2)

theorem get?_put (shelf : Shelf α) (key other : ObjectKey) (value : α) :
    (shelf.put key value).get? other = if key = other then some value else shelf.get? other := by
  induction shelf with
  | nil => rfl
  | cons entry rest ih =>
    obtain ⟨k, v⟩ := entry
    simp only [put]
    split <;> try split
    all_goals simp only [get?]
    all_goals grind

end Shelf

end DynamicDns
