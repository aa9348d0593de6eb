import DynamicDns.Json.Basic
import DynamicDns.Json.Fault
import DynamicDns.Text.Percent

/-!
# The words of a JSON text

A text is read octet by octet from a cursor, which knows how many octets are behind it. This module
reads what has no structure: blanks, the three words, numbers and strings. Numbers and strings can
also be skipped, which checks less: a skipped number may be out of range, a skipped string may hold
lone surrogates.

An integer of up to 64 bits, with or without sign, is exact, and any other number is a float: its
digits, as many as fit into 64 bits, are scaled by powers of ten in binary64 arithmetic. A negative
zero is a float.
-/

namespace DynamicDns.Json

/-- A place in a text: so many octets are behind it, and the rest is ahead. -/
structure Cursor where
  seen : Nat
  rest : List UInt8

/-- A reader fails with a fault or moves the cursor on. -/
abbrev Reading := StateT Cursor (Except Fault)

namespace Reading

def peek : Reading (Option UInt8) := do return (← get).rest.head?

def advance : Reading Unit :=
  modify fun c => match c.rest with
    | [] => c
    | _ :: rest => ⟨c.seen + 1, rest⟩

/-- Passes so many octets. -/
def skip (count : Nat) : Reading Unit := modify fun c => ⟨c.seen + count, c.rest.drop count⟩

/-- Fails at the place behind the octets passed so far. -/
def failHere {α : Type} (complaint : Complaint) : Reading α := do
  throw ⟨complaint, (← get).seen⟩

/-- Fails at the place behind the next octet, if there is one. -/
def failNext {α : Type} (complaint : Complaint) : Reading α := do
  let c ← get
  throw ⟨complaint, c.seen + c.rest.length.min 1⟩

def isSpace (octet : UInt8) : Bool := octet == 32 || octet == 10 || octet == 9 || octet == 13

def nextToken : Reading (Option UInt8) := do
  let c ← get
  let blanks := c.rest.takeWhile isSpace
  skip blanks.length
  peek

def isDigit (octet : UInt8) : Bool := 48 ≤ octet && octet ≤ 57

def digitValue (octet : UInt8) : Nat := octet.toNat - 48

def skipDigits : Reading Nat := do
  let count := ((← get).rest.takeWhile isDigit).length
  skip count
  return count

def word : List UInt8 → Reading Unit
  | [] => pure ()
  | expected :: more => do
    match ← peek with
    | none => failHere .endInValue
    | some octet =>
      advance
      if octet = expected then word more else failHere .expectedWord

/-! ### Numbers -/

/-- The largest integer of 64 bits. -/
def maxWord : Nat := UInt64.size - 1

/-- Appends digits to a number as long as it fits into 64 bits, and counts them. -/
def collect (number : Nat) (count : Nat) : List UInt8 → Nat × Nat
  | [] => (number, count)
  | octet :: rest =>
    if isDigit octet ∧ number * 10 + digitValue octet ≤ maxWord then
      collect (number * 10 + digitValue octet) (count + 1) rest
    else (number, count)

def digits (number : Nat) : Reading (Nat × Nat) := do
  let (value, count) := collect number 0 (← get).rest
  skip count
  return (value, count)

/-- Scales by a power of ten in binary64 arithmetic; `none` if the result is out of range. A large
negative exponent is worked off in steps of `10 ^ 308`. -/
def scale : Nat → Float → Int → Option Float
  | 0, value, _ => some value
  | steps + 1, value, exponent =>
    if exponent.natAbs ≤ 308 then
      let ten := Float.ofScientific 1 false exponent.natAbs
      if 0 ≤ exponent then
        if (value * ten).isInf then none else some (value * ten)
      else some (value / ten)
    else if value == 0 then some value
    else if 0 ≤ exponent then none
    else scale steps (value / 1e308) (exponent + 308)

/-- A float out of its parts; four steps bring any number of 64 bits down to zero. -/
def float (negative : Bool) (number : Nat) (exponent : Int) : Reading Json := do
  match scale 8 (UInt64.ofNat number).toFloat exponent with
  | none => failHere .numberOutOfRange
  | some value => return .float (if negative then (-value).toBits else value.toBits)

/-- The exponent behind an `e`. -/
def exponentPart (negative : Bool) (number : Nat) (start : Int) : Reading Json := do
  advance
  let next ← peek
  let sign := next == some 45
  if next == some 43 ∨ next == some 45 then advance
  match ← peek with
  | none => failHere .endInValue
  | some octet =>
    advance
    if !isDigit octet then failHere .badNumber
    let before ← get
    let count ← skipDigits
    let later := before.rest.take count
    let value := later.foldl (fun n d => n * 10 + digitValue d) (digitValue octet)
    if value ≤ 2147483647 then
      float negative number (if sign then start - value else start + value)
    else if number ≠ 0 ∧ !sign then failHere .numberOutOfRange
    else return .float (if negative then (-0.0 : Float).toBits else 0)

def fractionPart (negative : Bool) (number : Nat) (start : Int) : Reading Json := do
  advance
  let (value, count) ← digits number
  let exponent := start - count
  let surplus ← skipDigits
  if count = 0 ∧ surplus = 0 then
    match ← peek with
    | none => failNext .endInValue
    | some _ => failNext .badNumber
  match ← peek with
  | some 101 | some 69 => exponentPart negative value exponent
  | _ => float negative value exponent

def numberTail (negative : Bool) (number : Nat) : Reading Json := do
  let surplus ← skipDigits
  match ← peek with
  | some 46 => fractionPart negative number surplus
  | some 101 | some 69 => exponentPart negative number surplus
  | _ =>
    if surplus ≠ 0 then float negative number surplus
    else if !negative then return .int number
    else if number = 0 ∨ -(number : Int) < Int64.minValue.toInt then
      return .float (-(UInt64.ofNat number).toFloat).toBits
    else return .int (-number)

def unsigned (negative : Bool) : Reading Json := do
  match ← peek with
  | none => failHere .endInValue
  | some octet =>
    advance
    if octet = 48 then
      if (← peek).any isDigit then failNext .badNumber
      numberTail negative 0
    else if isDigit octet then
      let (value, _) ← digits (digitValue octet)
      numberTail negative value
    else failHere .badNumber

def number : Reading Json := do
  if (← peek) == some 45 then
    advance
    unsigned true
  else unsigned false

def skipExponent : Reading Unit := do
  advance
  let next ← peek
  if next == some 43 ∨ next == some 45 then advance
  match ← peek with
  | none => failHere .badNumber
  | some octet =>
    advance
    if !isDigit octet then failHere .badNumber
    let _ ← skipDigits

def skipNumber : Reading Unit := do
  if (← peek) == some 45 then advance
  match ← peek with
  | none => failHere .badNumber
  | some octet =>
    advance
    if octet = 48 then
      if (← peek).any isDigit then failNext .badNumber
    else if isDigit octet then
      let _ ← skipDigits
    else failHere .badNumber
  if (← peek) == some 46 then
    advance
    if (← skipDigits) = 0 then failNext .badNumber
  if (← peek) == some 101 ∨ (← peek) == some 69 then skipExponent

/-! ### Strings -/

def hexQuad? (a b c d : UInt8) : Option Nat := do
  let value := fun (octet : UInt8) => Percent.hexValue? (Char.ofNat octet.toNat)
  return (((← value a) * 16 + (← value b)) * 16 + (← value c)) * 16 + (← value d)

/-- What a backslash and a letter stand for. -/
def escapeValue? (octet : UInt8) : Option UInt8 :=
  if octet = 34 ∨ octet = 92 ∨ octet = 47 then some octet
  else if octet = 98 then some 8
  else if octet = 102 then some 12
  else if octet = 110 then some 10
  else if octet = 114 then some 13
  else if octet = 116 then some 9
  else none

/-- Puts the octets of a scalar in front of reversed ones. -/
def push (scalar : Nat) (reversed : List UInt8) : List UInt8 :=
  (Utf8.encode (String.singleton (Char.ofNat scalar))).reverse ++ reversed

/-- The octets of a string up to its closing quote, with the escapes resolved. A leading surrogate
has to be followed by a trailing one. -/
def stringOctets (seen : Nat) (reversed : List UInt8) :
    List UInt8 → Except Fault (List UInt8 × Cursor)
  | [] => throw ⟨.endInString, seen⟩
  | 92 :: 117 :: a :: b :: c :: d :: rest =>
    match hexQuad? a b c d with
    | none => throw ⟨.badEscape, seen + 6⟩
    | some n =>
      if n < 0xD800 ∨ 0xDFFF < n then stringOctets (seen + 6) (push n reversed) rest
      else if 0xDBFF < n then throw ⟨.loneSurrogate, seen + 6⟩
      else
        match rest with
        | 92 :: 117 :: e :: f :: g :: h :: rest =>
          match hexQuad? e f g h with
          | none => throw ⟨.badEscape, seen + 12⟩
          | some m =>
            if m < 0xDC00 ∨ 0xDFFF < m then throw ⟨.loneSurrogate, seen + 12⟩
            else
              let scalar := (n - 0xD800) * 1024 + (m - 0xDC00) + 0x10000
              stringOctets (seen + 12) (push scalar reversed) rest
        | 92 :: 117 :: short => throw ⟨.endInString, seen + 8 + short.length⟩
        | [92] => throw ⟨.endInString, seen + 7⟩
        | 92 :: _ => throw ⟨.endInEscape, seen + 8⟩
        | [] => throw ⟨.endInString, seen + 6⟩
        | _ => throw ⟨.endInEscape, seen + 7⟩
  | 92 :: 117 :: short => throw ⟨.endInString, seen + 2 + short.length⟩
  | [92] => throw ⟨.endInString, seen + 1⟩
  | 92 :: octet :: rest =>
    match escapeValue? octet with
    | none => throw ⟨.badEscape, seen + 2⟩
    | some value => stringOctets (seen + 2) (value :: reversed) rest
  | octet :: rest =>
    if octet = 34 then return (reversed.reverse, ⟨seen + 1, rest⟩)
    else if octet < 32 then throw ⟨.controlCharacter, seen + 1⟩
    else stringOctets (seen + 1) (octet :: reversed) rest

def stringTail : Reading String := do
  let c ← get
  let (octets, after) ← stringOctets c.seen [] c.rest
  set after
  match Utf8.decode? octets with
  | none => failHere .badUnicode
  | some text => return text

def stringEnd (seen : Nat) : List UInt8 → Except Fault Cursor
  | [] => throw ⟨.endInString, seen⟩
  | 92 :: 117 :: a :: b :: c :: d :: rest =>
    match hexQuad? a b c d with
    | none => throw ⟨.badEscape, seen + 6⟩
    | some _ => stringEnd (seen + 6) rest
  | 92 :: 117 :: short => throw ⟨.endInString, seen + 2 + short.length⟩
  | [92] => throw ⟨.endInString, seen + 1⟩
  | 92 :: octet :: rest =>
    match escapeValue? octet with
    | none => throw ⟨.badEscape, seen + 2⟩
    | some _ => stringEnd (seen + 2) rest
  | octet :: rest =>
    if octet = 34 then return ⟨seen + 1, rest⟩
    else if octet < 32 then throw ⟨.controlCharacter, seen⟩
    else stringEnd (seen + 1) rest

/-- Passes a string, behind its opening quote, unread. -/
def skipString : Reading Unit := do
  let c ← get
  set (← stringEnd c.seen c.rest)

end Reading

end DynamicDns.Json
