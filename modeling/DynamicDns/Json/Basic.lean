/-!
# JSON values

A value is a tree whose numbers are either integers or finite binary64 floats, as a document
distinguishes `1` from `1.0`. An object is a list of members; every operation here keeps the keys
of an object strictly increasing by code point, so two objects with the same members are the same
list, and `Members.get?` is the view through which objects are read.

Equality is decided member by member. Two floats are equal when they denote the same number,
which makes the two zeros equal; an integer never equals a float.
-/

namespace DynamicDns

/-- A JSON value; a float is given by its binary64 bits. -/
inductive Json where
  | null
  | bool (value : Bool)
  | int (value : Int)
  | float (bits : UInt64)
  | str (value : String)
  | arr (items : List Json)
  | obj (members : List (String × Json))
  deriving Inhabited, Repr

namespace Json

/-- The members of an object, by increasing key. -/
abbrev Members := List (String × Json)

namespace Members

def get? : Members → String → Option Json
  | [], _ => none
  | (k, v) :: rest, key => if k = key then some v else get? rest key

def insert (key : String) (value : Json) : Members → Members
  | [] => [(key, value)]
  | (k, v) :: rest =>
    if key = k then (key, value) :: rest
    else if key < k then (key, value) :: (k, v) :: rest
    else (k, v) :: insert key value rest

def erase (key : String) (members : Members) : Members :=
  members.filter fun member => member.1 ≠ key

def has (members : Members) (key : String) : Bool := (members.get? key).isSome

/-- The members in key order; of two values for one key the later stays. -/
def ofList (members : List (String × Json)) : Members :=
  members.foldl (fun sorted member => insert member.1 member.2 sorted) []

end Members

/-- The object with the given members, in any order. -/
def object (members : List (String × Json)) : Json := .obj (Members.ofList members)

/-- A member that is written only when there is a value for it. -/
def member? (key : String) : Option Json → List (String × Json)
  | none => []
  | some value => [(key, value)]

/-- Two floats denote the same number: equal bits, or zeros of either sign. -/
def sameNumber (a b : UInt64) : Bool := a == b || (a <<< 1 == 0 && b <<< 1 == 0)

mutual

def same : Json → Json → Bool
  | .null, .null => true
  | .bool a, .bool b => a == b
  | .int a, .int b => a == b
  | .float a, .float b => sameNumber a b
  | .str a, .str b => a == b
  | .arr a, .arr b => sameItems a b
  | .obj a, .obj b => sameMembers a b
  | _, _ => false

def sameItems : List Json → List Json → Bool
  | [], [] => true
  | a :: as, b :: bs => same a b && sameItems as bs
  | _, _ => false

def sameMembers : List (String × Json) → List (String × Json) → Bool
  | [], [] => true
  | (k, a) :: as, (l, b) :: bs => k == l && same a b && sameMembers as bs
  | _, _ => false

end

instance : BEq Json := ⟨same⟩

def string? : Json → Option String
  | .str value => some value
  | _ => none

def bool? : Json → Option Bool
  | .bool value => some value
  | _ => none

def intWithin? (low high : Int) : Json → Option Int
  | .int value => if low ≤ value ∧ value ≤ high then some value else none
  | _ => none

/-- An integer of 64 bits with sign. -/
def int64? : Json → Option Int := intWithin? Int64.minValue.toInt Int64.maxValue.toInt

def items? : Json → Option (List Json)
  | .arr items => some items
  | _ => none

def members? : Json → Option Members
  | .obj members => some members
  | _ => none

def get? (value : Json) (key : String) : Option Json :=
  value.members?.bind (·.get? key)

def list? {α : Type} (read : Json → Option α) (value : Json) : Option (List α) :=
  value.items?.bind (·.mapM read)

def dict? {α : Type} (read : Json → Option α) (value : Json) : Option (List (String × α)) :=
  value.members?.bind (·.mapM fun member => (read member.2).map (member.1, ·))

end Json

end DynamicDns
