import DynamicDns.Decimal.Layout
import DynamicDns.Text.Quoted

/-!
# What can be wrong with a JSON text

A fault is a complaint and the number of octets in front of its place. Its text names the line,
counted from one, and the column, the number of octets of that line in front of the place.
-/

namespace DynamicDns.Json

/-- A value where another kind of value was expected. -/
inductive Found where
  | null
  | bool (value : Bool)
  | int (value : Int)
  | float (bits : UInt64)
  | str (value : String)
  | sequence
  | map

def Found.text : Found → String
  | .null => "null"
  | .bool value => "boolean `" ++ (if value then "true" else "false") ++ "`"
  | .int value => "integer `" ++ toString value ++ "`"
  | .float bits => "floating point `" ++ Decimal.render Decimal.json bits ++ "`"
  | .str value => "string " ++ Quoted.quote value
  | .sequence => "sequence"
  | .map => "map"

inductive Complaint where
  | endInValue
  | endInList
  | endInObject
  | endInString
  | expectedValue
  | expectedColon
  | expectedListEnd
  | expectedObjectEnd
  | expectedWord
  | keyNotString
  | trailingComma
  | trailingCharacters
  | badNumber
  | numberOutOfRange
  | badEscape
  | loneSurrogate
  | endInEscape
  | controlCharacter
  | badUnicode
  | tooDeep
  | wrongType (found : Found) (expected : String)
  | wrongLength (length : Nat) (expected : String)
  | wrongValue
  | missingField (name : String)
  | duplicateField (name : String)

def Complaint.text : Complaint → String
  | .endInValue => "EOF while parsing a value"
  | .endInList => "EOF while parsing a list"
  | .endInObject => "EOF while parsing an object"
  | .endInString => "EOF while parsing a string"
  | .expectedValue => "expected value"
  | .expectedColon => "expected `:`"
  | .expectedListEnd => "expected `,` or `]`"
  | .expectedObjectEnd => "expected `,` or `\x7d`"
  | .expectedWord => "expected ident"
  | .keyNotString => "key must be a string"
  | .trailingComma => "trailing comma"
  | .trailingCharacters => "trailing characters"
  | .badNumber => "invalid number"
  | .numberOutOfRange => "number out of range"
  | .badEscape => "invalid escape"
  | .loneSurrogate => "lone leading surrogate in hex escape"
  | .endInEscape => "unexpected end of hex escape"
  | .controlCharacter => "control character (\\u0000-\\u001F) found while parsing a string"
  | .badUnicode => "invalid unicode code point"
  | .tooDeep => "recursion limit exceeded"
  | .wrongType found expected => "invalid type: " ++ found.text ++ ", expected " ++ expected
  | .wrongLength length expected =>
    "invalid length " ++ toString length ++ ", expected " ++ expected
  | .wrongValue => "invalid value"
  | .missingField name => "missing field `" ++ name ++ "`"
  | .duplicateField name => "duplicate field `" ++ name ++ "`"

/-- A complaint and the number of octets in front of its place. -/
structure Fault where
  complaint : Complaint
  place : Nat

/-- The octets behind the last line break. -/
def lastLine (octets : List UInt8) : List UInt8 :=
  (octets.reverse.takeWhile (· ≠ 10)).reverse

def Fault.text (octets : List UInt8) (fault : Fault) : String :=
  let before := octets.take fault.place
  fault.complaint.text ++ " at line " ++ toString (before.count 10 + 1) ++ " column " ++
    toString (lastLine before).length

end DynamicDns.Json
