import DynamicDns.Json.Basic

/-!
# Merge patches

A merge patch describes a change of a JSON value (RFC 7386): an object is applied member by member,
`null` removes a member, and anything else replaces the value whole. `diff` is the smallest patch
that leads from one value to another; it mentions exactly the keys on which the two differ, so
applied to a third value it leaves all other members alone. Only a `null` member of the second value
cannot be expressed, since a patch reads it as a removal.
-/

namespace DynamicDns.Json

mutual

/-- Applies a patch, the second argument, to a value. -/
def applyPatch (target : Json) : Json → Json
  | .obj changes => .obj (applyChanges ((target.members?).getD []) changes)
  | replacement => replacement

/-- Applies the members of a patch to the members of an object, in order. -/
def applyChanges (target : Members) : List (String × Json) → Members
  | [] => target
  | (key, .null) :: rest => applyChanges (target.erase key) rest
  | (key, change) :: rest =>
    applyChanges (target.insert key (applyPatch ((target.get? key).getD .null) change)) rest

end

mutual

/-- The patch that turns the first value into the second. -/
def diff : Json → Json → Json
  | .obj before, .obj after =>
    .obj (Members.ofList
      (diffMembers before after ++ after.filter fun member => !Members.has before member.1))
  | _, after => after

/-- The changes to the members of the first object. -/
def diffMembers : List (String × Json) → Members → List (String × Json)
  | [], _ => []
  | (key, old) :: rest, after =>
    match Members.get? after key with
    | none => (key, .null) :: diffMembers rest after
    | some new =>
      if old == new then diffMembers rest after
      else (key, diff old new) :: diffMembers rest after

end

end DynamicDns.Json
