import DynamicDns.Json.Basic

/-!
# Schemas

What the API server checks of an object before it keeps it. A schema says what kind of value stands
at a place and explains it; a field of a record may be required, may be null, or has a default.
-/

namespace DynamicDns

/-- The schema of a value. -/
inductive Schema where
  | text
  | flag
  | int64
  | list (explained : Option String) (item : Schema)
  | record (fields : List (String × Option String × Schema × Bool))
  | nullable (schema : Schema)
  | defaulted (value : Json) (schema : Schema)

namespace Schema

/-- A field: its name, what it is for, its schema, and whether it is required. -/
abbrev Field := String × Option String × Schema × Bool

def must (name explained : String) (schema : Schema) : Field := (name, some explained, schema, true)

def may (name explained : String) (schema : Schema) : Field := (name, some explained, schema, false)

/-- What explains a value, if something does. -/
def explanation (text : Option String) : List (String × Json) :=
  Json.member? "description" (text.map Json.str)

/-- The names of the required fields, in order. -/
def requiredNames (fields : List Field) : List String :=
  ((fields.filter fun field => field.2.2.2).map (·.1)).mergeSort fun a b => a ≤ b

mutual

def members : Schema → List (String × Json)
  | .text => [("type", .str "string")]
  | .flag => [("type", .str "boolean")]
  | .int64 => [("type", .str "integer"), ("format", .str "int64")]
  | .list explained item =>
    [("type", .str "array"), ("items", Json.object (explanation explained ++ members item))]
  | .record fields =>
    let required := requiredNames fields
    [("type", .str "object"), ("properties", Json.object (properties fields))] ++
      (if required.isEmpty then [] else [("required", .arr (required.map Json.str))])
  | .nullable schema => ("nullable", .bool true) :: members schema
  | .defaulted value schema => ("default", value) :: members schema

def properties : List (String × Option String × Schema × Bool) → List (String × Json)
  | [] => []
  | (name, explained, schema, _) :: rest =>
    (name, Json.object (explanation explained ++ members schema)) :: properties rest

end

end Schema

end DynamicDns
