import DynamicDns.Json.Lexeme

/-!
# Reading JSON text against a shape

A `Shape` says what a reader expects at a place: a text, a list of something, a record with certain
fields. The text is read front to back and the first thing that does not fit is reported at its
place, so a document that is wrong in two ways shows the earlier one, whether it is a broken token
or a value of the wrong kind. What no field asks for is skipped without being understood: it may
nest to any depth and hold texts and numbers that could not be read.

The value that comes out is an object for every record, whichever form the record was written in,
with the members that were there.

A fault of a record as a whole (a field missing, given twice, or beyond the end of an array) is
reported once the record is closed, as far as it closes right there.
-/

namespace DynamicDns.Json

/-- When a field may be left out. An optional field may be missing in an object, a defaulted one
also behind the end of an array. -/
inductive Presence where
  | required
  | optional
  | defaulted
  deriving DecidableEq

/-- What is expected at a place. A plain record is written as an object only; its fields may be held
to being given once, or else of a field given twice the later value stays. -/
inductive Shape where
  | any
  | text
  | flag
  | integer (low high : Int)
  | nullable (shape : Shape)
  | list (item : Shape)
  | dict (item : Shape)
  | record (name : String) (fields : List (String × Presence × Shape))
  | plainRecord (once : Bool) (fields : List (String × Presence × Shape))

abbrev Field := String × Presence × Shape

def depthLimit : Nat := 128

namespace Reading

/-- Fails because another kind of value was expected; a scalar is read first. -/
def mismatch {α : Type} (expected : String) : Reading α := do
  match ← peek with
  | some 110 =>
    advance
    word [117, 108, 108]
    failHere (.wrongType .null expected)
  | some 116 =>
    advance
    word [114, 117, 101]
    failHere (.wrongType (.bool true) expected)
  | some 102 =>
    advance
    word [97, 108, 115, 101]
    failHere (.wrongType (.bool false) expected)
  | some 34 =>
    advance
    let text ← stringTail
    failHere (.wrongType (.str text) expected)
  | some 91 => failHere (.wrongType .sequence expected)
  | some 123 => failHere (.wrongType .map expected)
  | some octet =>
    if octet = 45 ∨ isDigit octet then
      match ← number with
      | .int value => failHere (.wrongType (.int value) expected)
      | .float bits => failHere (.wrongType (.float bits) expected)
      | _ => failHere .expectedValue
    else failNext .expectedValue
  | none => failNext .expectedValue

/-- Whether a list has another item; a separating comma is passed. -/
def moreItems (first : Bool) : Reading Bool := do
  match ← nextToken with
  | none => failNext .endInList
  | some 93 => return false
  | some octet =>
    if first then return true
    else if octet = 44 then
      advance
      match ← nextToken with
      | some 93 => failNext .trailingComma
      | some _ => return true
      | none => failNext .endInValue
    else failNext .expectedListEnd

/-- Whether an object has another member; a separating comma is passed. -/
def moreMembers (first : Bool) : Reading Bool := do
  let key : Option UInt8 → Reading Bool
    | some 34 => return true
    | some 125 => failNext .trailingComma
    | some _ => failNext .keyNotString
    | none => failNext .endInValue
  match ← nextToken with
  | some 125 => return false
  | some octet =>
    if first then key (some octet)
    else if octet = 44 then
      advance
      key (← nextToken)
    else failNext .expectedObjectEnd
  | none => failNext .endInObject

def endList : Reading Unit := do
  match ← nextToken with
  | some 93 => advance
  | some 44 =>
    advance
    match ← nextToken with
    | some 93 => failNext .trailingComma
    | _ => failNext .trailingCharacters
  | some _ => failNext .trailingCharacters
  | none => failNext .endInList

def endObject : Reading Unit := do
  match ← nextToken with
  | some 125 => advance
  | some 44 => failNext .trailingComma
  | some _ => failNext .trailingCharacters
  | none => failNext .endInObject

/-- Fails behind the end of the record, if it ends here. -/
def failClosing {α : Type} (close : UInt8) (complaint : Complaint) : Reading α := do
  if (← nextToken) == some close then advance
  failHere complaint

def colon : Reading Unit := do
  match ← nextToken with
  | some 58 => advance
  | some _ => failNext .expectedColon
  | none => failNext .endInObject

def enter (depth : Nat) : Reading Nat := do
  advance
  if depth ≤ 1 then failNext .tooDeep
  return depth - 1

/-! ### Skipping -/

def skipScalar : Reading Unit := do
  match ← peek with
  | some 110 =>
    advance
    word [117, 108, 108]
  | some 116 =>
    advance
    word [114, 117, 101]
  | some 102 =>
    advance
    word [97, 108, 115, 101]
  | some 34 =>
    advance
    skipString
  | some octet => if octet = 45 ∨ isDigit octet then skipNumber else failNext .expectedValue
  | none => failNext .endInValue

def skipKey : Reading Unit := do
  match ← nextToken with
  | some 34 => advance
  | some _ => failNext .keyNotString
  | none => failNext .endInObject
  skipString
  colon

/-- Passes what follows a value, or an opening bracket, inside the given open brackets: closing
brackets, and then the comma and key in front of the next value. Answers the brackets still open. -/
def skipBetween : Nat → Bool → List UInt8 → Reading (List UInt8)
  | 0, _, enclosing => pure enclosing
  | _, _, [] => pure []
  | fuel + 1, comma, frame :: outer => do
    match ← nextToken with
    | none => failNext (if frame = 91 then .endInList else .endInObject)
    | some octet =>
      if octet = 44 ∧ comma then
        advance
        if frame = 123 then skipKey
        return frame :: outer
      else if octet = frame + 2 then
        advance
        skipBetween fuel true outer
      else if comma then failNext (if frame = 91 then .expectedListEnd else .expectedObjectEnd)
      else
        if frame = 123 then skipKey
        return frame :: outer

/-- Passes values unread until the given open brackets are closed. -/
def skipInside : Nat → List UInt8 → Reading Unit
  | 0, _ => pure ()
  | fuel + 1, enclosing => do
    let next ← nextToken
    let open? := next.filter fun octet => octet = 91 ∨ octet = 123
    let enclosing ← match open? with
      | some octet =>
        advance
        skipBetween fuel false (octet :: enclosing)
      | none =>
        skipScalar
        skipBetween fuel true enclosing
    if enclosing ≠ [] then skipInside fuel enclosing

def skipValue : Reading Unit := do
  skipInside ((← get).rest.length + 1) []

/-! ### Reading -/

def lengthText (name : String) (count : Nat) : String :=
  "struct " ++ name ++ " with " ++ toString count ++ (if count = 1 then " element" else " elements")

/-- The first required field that is missing. -/
def firstMissing (fields : List Field) (members : Members) : Option String :=
  (fields.find? fun field => field.2.1 = .required ∧ !members.has field.1).map (·.1)

mutual

/-- Reads a value of a shape. The fuel bounds the steps, the depth the nesting. -/
def value : Nat → Shape → Nat → Reading Json
  | 0, _, _ => failHere .endInValue
  | fuel + 1, shape, depth => do
    match ← nextToken with
    | none => failNext .endInValue
    | some octet =>
      match shape with
      | .any =>
        if octet = 91 then
          let inner ← enter depth
          let found ← items fuel .any inner true
          endList
          return .arr found
        else if octet = 123 then
          let inner ← enter depth
          let found ← members fuel .any inner true []
          endObject
          return .obj found
        else if octet = 34 then
          advance
          return .str (← stringTail)
        else if octet = 110 then
          advance
          word [117, 108, 108]
          return .null
        else if octet = 116 then
          advance
          word [114, 117, 101]
          return .bool true
        else if octet = 102 then
          advance
          word [97, 108, 115, 101]
          return .bool false
        else if octet = 45 ∨ isDigit octet then number
        else failNext .expectedValue
      | .text =>
        if octet = 34 then
          advance
          return .str (← stringTail)
        else mismatch "a string"
      | .flag =>
        if octet = 116 then
          advance
          word [114, 117, 101]
          return .bool true
        else if octet = 102 then
          advance
          word [97, 108, 115, 101]
          return .bool false
        else mismatch "a boolean"
      | .integer low high =>
        if octet = 45 ∨ isDigit octet then
          let found ← number
          match found.intWithin? low high with
          | some _ => return found
          | none => failHere .wrongValue
        else mismatch "an integer"
      | .nullable inner =>
        if octet = 110 then
          advance
          word [117, 108, 108]
          return .null
        else value fuel inner depth
      | .list item =>
        if octet = 91 then
          let inner ← enter depth
          let found ← items fuel item inner true
          endList
          return .arr found
        else mismatch "a sequence"
      | .dict item =>
        if octet = 123 then
          let inner ← enter depth
          let found ← members fuel item inner true []
          endObject
          return .obj found
        else mismatch "a map"
      | .record name fields =>
        if octet = 123 then
          let inner ← enter depth
          record fuel fields true inner true []
        else if octet = 91 then
          let inner ← enter depth
          let found ← sequence fuel name fields fields.length 0 inner true []
          endList
          return .obj found
        else mismatch ("struct " ++ name)
      | .plainRecord once fields =>
        if octet = 123 then
          let inner ← enter depth
          record fuel fields once inner true []
        else mismatch "an object"

def items : Nat → Shape → Nat → Bool → Reading (List Json)
  | 0, _, _, _ => failHere .endInList
  | fuel + 1, item, depth, first => do
    if ← moreItems first then
      let head ← value fuel item depth
      let tail ← items fuel item depth false
      return head :: tail
    else return []

/-- The members of an object whose values all have one shape. -/
def members : Nat → Shape → Nat → Bool → Members → Reading Members
  | 0, _, _, _, _ => failHere .endInObject
  | fuel + 1, item, depth, first, found => do
    if ← moreMembers first then
      advance
      let key ← stringTail
      colon
      let head ← value fuel item depth
      members fuel item depth false (found.insert key head)
    else return found

def record : Nat → List Field → Bool → Nat → Bool → Members → Reading Json
  | 0, _, _, _, _, _ => failHere .endInObject
  | fuel + 1, fields, once, depth, first, found => do
    if ← moreMembers first then
      advance
      let key ← stringTail
      match fields.lookup key with
      | some (_, shape) =>
        if once ∧ found.has key then failClosing 125 (.duplicateField key)
        colon
        let head ← value fuel shape depth
        record fuel fields once depth false (found.insert key head)
      | none =>
        colon
        skipValue
        record fuel fields once depth false found
    else
      match firstMissing fields found with
      | some name => failClosing 125 (.missingField name)
      | none =>
        endObject
        return .obj found

def sequence : Nat → String → List Field → Nat → Nat → Nat → Bool → Members → Reading Members
  | 0, _, _, _, _, _, _, _ => failHere .endInList
  | _, _, [], _, _, _, _, found => return found
  | fuel + 1, name, (key, presence, shape) :: rest, count, index, depth, first, found => do
    if ← moreItems first then
      let head ← value fuel shape depth
      sequence fuel name rest count (index + 1) depth false (found.insert key head)
    else if presence = .defaulted then
      sequence fuel name rest count (index + 1) depth first found
    else failClosing 93 (.wrongLength index (lengthText name count))

end

end Reading

/-- Reads a text that holds one value of a shape and nothing else. -/
def Shape.read (shape : Shape) (octets : List UInt8) : Except Fault Json :=
  let whole : Reading Json := do
    let found ← Reading.value (2 * octets.length + 4) shape depthLimit
    match ← Reading.nextToken with
    | some _ => Reading.failNext .trailingCharacters
    | none => return found
  (whole.run ⟨0, octets⟩).map (·.1)

def ofText? (text : String) : Option Json := (Shape.any.read (Utf8.encode text)).toOption

end DynamicDns.Json
