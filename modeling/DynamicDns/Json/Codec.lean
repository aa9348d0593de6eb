import DynamicDns.Json.Record

/-!
# Encoding and decoding

A type has a codec when its values have a JSON form that is written one way and read leniently:
members that are not part of the form are ignored, and a record may be an array of its fields.
-/

namespace DynamicDns

/-- The JSON form of a type. -/
class Codec (α : Type) where
  encode : α → Json
  decode? : Json → Option α

namespace Json

def ofInt64 (value : Int64) : Json := .int value.toInt

/-- A 64-bit integer, if the value is one. -/
def toInt64? (value : Json) : Option Int64 := value.int64?.map Int64.ofInt

def ofItems {α : Type} [Codec α] (items : List α) : Json := .arr (items.map Codec.encode)

def toItems? {α : Type} [Codec α] (value : Json) : Option (List α) := value.list? Codec.decode?

def ofTexts (texts : List (String × String)) : Json :=
  .obj (texts.map fun entry => (entry.1, .str entry.2))

/-- A dictionary of texts, if all its values are texts. -/
def toTexts? (value : Json) : Option (List (String × String)) := value.dict? string?

end Json

end DynamicDns
