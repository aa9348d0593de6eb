/-!
# UTF-8

Octets are read by a machine whose state says how many continuation octets are owed, the range the
next one has to lie in, and the scalar collected so far. An octet that does not fit ends the
character in progress and is looked at afresh, so an ill-formed stretch yields one failure per
maximal part that could have begun a character. `decode?` accepts well-formed text only; `decode`
puts U+FFFD for each failure and keeps a byte order mark.
-/

namespace DynamicDns.Utf8

/-- A character in progress: the octets owed after the next one, the range of the next one, and the
scalar so far. -/
structure Pending where
  owed : Nat
  low : Nat
  high : Nat
  scalar : Nat

/-- What an octet means at the start of a character. -/
inductive Lead where
  | complete (c : Char)
  | begins (p : Pending)
  | bad

def lead (octet : UInt8) : Lead :=
  let b := octet.toNat
  if b < 0x80 then .complete (Char.ofNat b)
  else if b < 0xC2 then .bad
  else if b < 0xE0 then .begins ⟨0, 0x80, 0xBF, b % 32⟩
  else if b = 0xE0 then .begins ⟨1, 0xA0, 0xBF, 0⟩
  else if b = 0xED then .begins ⟨1, 0x80, 0x9F, b % 16⟩
  else if b < 0xF0 then .begins ⟨1, 0x80, 0xBF, b % 16⟩
  else if b = 0xF0 then .begins ⟨2, 0x90, 0xBF, 0⟩
  else if b < 0xF4 then .begins ⟨2, 0x80, 0xBF, b % 8⟩
  else if b = 0xF4 then .begins ⟨2, 0x80, 0x8F, b % 8⟩
  else .bad

/-- Characters in order, with `none` for each ill-formed part. -/
def scan : Option Pending → List UInt8 → List (Option Char)
  | none, [] => []
  | some _, [] => [none]
  | none, octet :: rest =>
    match lead octet with
    | .complete c => some c :: scan none rest
    | .begins p => scan (some p) rest
    | .bad => none :: scan none rest
  | some p, octet :: rest =>
    let b := octet.toNat
    if p.low ≤ b ∧ b ≤ p.high then
      let scalar := p.scalar * 64 + b % 64
      match p.owed with
      | 0 => some (Char.ofNat scalar) :: scan none rest
      | owed + 1 => scan (some ⟨owed, 0x80, 0xBF, scalar⟩) rest
    else
      match lead octet with
      | .complete c => none :: some c :: scan none rest
      | .begins q => none :: scan (some q) rest
      | .bad => none :: none :: scan none rest

/-- The text, if the octets are well formed. -/
def decode? (octets : List UInt8) : Option String :=
  ((scan none octets).mapM id).map String.ofList

/-- The text with U+FFFD in place of ill-formed parts. -/
def decode (octets : List UInt8) : String :=
  String.ofList ((scan none octets).map (·.getD (Char.ofNat 0xFFFD)))

def encode (text : String) : List UInt8 := text.toUTF8.toList

end DynamicDns.Utf8
