import DynamicDns.Json.Codec

/-!
# References

An object is known by its namespace and name. A reference inside another object may leave the
namespace out, or empty, and then means the namespace of the object it stands in.
-/

namespace DynamicDns

/-- A namespace and a name in it. -/
structure ObjectKey where
  ns : String
  name : String
  deriving DecidableEq, Inhabited, Repr

namespace ObjectKey

def path (key : ObjectKey) : String := key.ns ++ "/" ++ key.name

/-- Keys are ordered by namespace, then by name. -/
def before (a b : ObjectKey) : Bool := a.ns < b.ns || (a.ns == b.ns && a.name < b.name)

end ObjectKey

/-- A reference to an object by name. -/
structure Reference where
  name : String
  ns : Option String
  deriving DecidableEq, Inhabited

namespace Reference

/-- The namespace a reference points into, seen from a namespace. -/
def nsOr (reference : Reference) (home : String) : String :=
  match reference.ns with
  | some ns => if ns = "" then home else ns
  | none => home

/-- The object a reference points to, seen from a namespace. -/
def target (reference : Reference) (home : String) : ObjectKey :=
  ⟨reference.nsOr home, reference.name⟩

def encode (reference : Reference) : Json :=
  Json.object ([("name", .str reference.name)] ++
    Json.member? "namespace" (reference.ns.map Json.str))

def decode? (value : Json) : Option Reference := do
  let field ← value.record? ["name", "namespace"]
  return {
    name := ← (field "name").required Json.string?
    ns := ← (field "namespace").optionalDefaulted Json.string? }

instance : Codec Reference := ⟨encode, decode?⟩

end Reference

end DynamicDns
