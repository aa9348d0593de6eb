import DynamicDns.Text.Percent

/-!
# IP addresses

An IPv4 address is four decimal octets without leading zeros. An IPv6 address is eight groups of up
to four hexadecimal digits, of which one run of zero groups may be left out as `::` and the last two
may be written as an IPv4 address. Nothing else is an address: no blanks, no zone, no port.

Each address has one standard text: lower-case digits without leading zeros, the first of the
longest runs of at least two zero groups left out, and an IPv4 address shown as such when it is
mapped into IPv6.
-/

namespace DynamicDns

/-- An address; a version 6 address has eight groups of 16 bits. -/
inductive IpAddress where
  | v4 (a b c d : UInt8)
  | v6 (groups : List UInt16)
  deriving DecidableEq

namespace IpAddress

/-! ### Reading -/

/-- Digits to a base, at most so many and at least one, and what follows them. -/
def number? (base limit : Nat) (text : List Char) : Option (Nat × Nat × List Char) :=
  let value? := fun c => (Percent.hexValue? c).filter (· < base)
  let digits := text.takeWhile fun c => (value? c).isSome
  if digits.length = 0 ∨ limit < digits.length then none
  else
    some (digits.foldl (fun n c => n * base + (value? c).getD 0) 0, digits.length,
      text.drop digits.length)

def octet? (text : List Char) : Option (UInt8 × List Char) := do
  let (value, length, rest) ← number? 10 3 text
  if 255 < value ∨ (1 < length ∧ text.head? = some '0') then none
  else some (UInt8.ofNat value, rest)

def after? (c : Char) : List Char → Option (List Char)
  | d :: rest => if d = c then some rest else none
  | [] => none

def octets? (text : List Char) : Option ((UInt8 × UInt8 × UInt8 × UInt8) × List Char) := do
  let (a, rest) ← octet? text
  let (b, rest) ← octet? (← after? '.' rest)
  let (c, rest) ← octet? (← after? '.' rest)
  let (d, rest) ← octet? (← after? '.' rest)
  return ((a, b, c, d), rest)

def pair (a b : UInt8) : UInt16 := UInt16.ofNat (a.toNat * 256 + b.toNat)

/-- Groups divided by colons, at most so many, the last two of them possibly as four octets; and
whether they were. -/
def groups (first : Bool) : Nat → List Char → List UInt16 × Bool × List Char
  | 0, text => ([], false, text)
  | room + 1, text =>
    match if first then some text else after? ':' text with
    | none => ([], false, text)
    | some start =>
      match if room = 0 then none else octets? start with
      | some ((a, b, c, d), rest) => ([pair a b, pair c d], true, rest)
      | none =>
        match number? 16 4 start with
        | none => ([], false, text)
        | some (value, _, rest) =>
          let (more, dotted, rest) := groups false room rest
          (UInt16.ofNat value :: more, dotted, rest)

def groups? (text : List Char) : Option (List UInt16 × List Char) :=
  let (head, dotted, rest) := groups true 8 text
  if head.length = 8 then some (head, rest)
  else if dotted then none
  else
    match rest with
    | ':' :: ':' :: rest =>
      let (tail, _, rest) := groups true (7 - head.length) rest
      some (head ++ List.replicate (8 - head.length - tail.length) 0 ++ tail, rest)
    | _ => none

def v6? (text : List Char) : Option (List UInt16) :=
  match groups? text with
  | some (found, []) => some found
  | _ => none

def parse? (text : String) : Option IpAddress :=
  match octets? text.toList with
  | some ((a, b, c, d), []) => some (.v4 a b c d)
  | _ => (v6? text.toList).map .v6

/-! ### Writing -/

def dotted (a b c d : UInt8) : String :=
  String.intercalate "." ([a, b, c, d].map fun octet => toString octet.toNat)

def colons (groups : List UInt16) : String :=
  String.intercalate ":" (groups.map fun group => String.ofList (Nat.toDigits 16 group.toNat))

def zeros (groups : List UInt16) : Nat := (groups.takeWhile (· = 0)).length

/-- The start and length of the first of the longest runs of zero groups. -/
def longestRun (groups : List UInt16) : Nat × Nat :=
  (List.range groups.length).foldl (fun best start =>
    let length := zeros (groups.drop start)
    if best.2 < length then (start, length) else best) (0, 0)

def groupText (groups : List UInt16) : String :=
  let (start, length) := longestRun groups
  if 1 < length then colons (groups.take start) ++ "::" ++ colons (groups.drop (start + length))
  else colons groups

def text : IpAddress → String
  | .v4 a b c d => dotted a b c d
  | .v6 [0, 0, 0, 0, 0, 65535, high, low] =>
    "::ffff:" ++ dotted (high >>> 8).toUInt8 high.toUInt8 (low >>> 8).toUInt8 low.toUInt8
  | .v6 groups => groupText groups

end IpAddress

end DynamicDns
