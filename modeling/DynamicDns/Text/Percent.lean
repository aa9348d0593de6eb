import DynamicDns.Text.Utf8

/-!
# Percent encoding

An octet that may not stand for itself is written `%XX` with upper-case digits. Which octets may is
a set per position in a URL; form values have their own set and write a space as `+`.
-/

namespace DynamicDns.Percent

def hexDigit (n : Nat) : Char := if n < 10 then Char.ofNat (48 + n) else Char.ofNat (55 + n)

/-- The value of a digit to base sixteen, in either case. -/
def hexValue? (c : Char) : Option Nat :=
  if c.isDigit then some (c.toNat - 48)
  else if 'a' ≤ c ∧ c ≤ 'f' then some (c.toNat - 87)
  else if 'A' ≤ c ∧ c ≤ 'F' then some (c.toNat - 55)
  else none

def escapeOctet (octet : UInt8) : List Char :=
  ['%', hexDigit (octet.toNat / 16), hexDigit (octet.toNat % 16)]

/-- A character as it stands, or the escapes of its octets. -/
def escapeChar (escaped : Char → Bool) (c : Char) : List Char :=
  if escaped c then (Utf8.encode (String.singleton c)).flatMap escapeOctet else [c]

def escape (escaped : Char → Bool) (text : List Char) : List Char :=
  text.flatMap (escapeChar escaped)

/-- The octets with escapes resolved; a `%` without two digits behind it stands for itself. -/
def unescape : List UInt8 → List UInt8
  | 37 :: a :: b :: rest =>
    match hexValue? (Char.ofNat a.toNat), hexValue? (Char.ofNat b.toNat) with
    | some x, some y => UInt8.ofNat (x * 16 + y) :: unescape rest
    | _, _ => 37 :: unescape (a :: b :: rest)
  | octet :: rest => octet :: unescape rest
  | [] => []

/-- The characters that a form value leaves as they are. -/
def formPlain (c : Char) : Bool :=
  c.isAlphanum || c = '*' || c = '-' || c = '.' || c = '_'

def formEncode (text : String) : String :=
  String.ofList (text.toList.flatMap fun c =>
    if c = ' ' then ['+'] else escapeChar (fun d => !formPlain d) c)

end DynamicDns.Percent
