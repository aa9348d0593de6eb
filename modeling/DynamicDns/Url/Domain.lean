import DynamicDns.Text.Invisible
import DynamicDns.Text.Percent
import DynamicDns.Text.Punycode

/-!
# Domain names

A domain is compared in its ASCII form: lower case, with a label that holds other characters written
in Punycode behind `xn--`. Before that a character is mapped to the one it is a variant of, as far
as scripts with case and full-width forms go, and some invisible characters are dropped. Control
characters, blanks and the characters that divide a URL cannot be part of a domain, and a label that
is in Punycode already has to stand for one that needs it. Characters are not composed, and the
direction in which a label is written is not looked at.
-/

namespace DynamicDns.Domain

def fold (c : Char) : Char :=
  let n := c.toNat
  let within := fun (low high : Nat) => low ≤ n ∧ n ≤ high
  let m :=
    if within 0x41 0x5A then n + 32
    else if n = 0x3002 ∨ n = 0xFF61 then 0x2E
    else if within 0xFF21 0xFF3A then n - 0xFEC0
    else if within 0xFF01 0xFF5E then n - 0xFEE0
    else if within 0xC0 0xDE ∧ n ≠ 0xD7 then n + 32
    else if (within 0x100 0x137 ∨ within 0x14A 0x177) ∧ n ≠ 0x130 ∧ n ≠ 0x131 ∧ n % 2 = 0 then n + 1
    else if (within 0x139 0x148 ∨ within 0x179 0x17E) ∧ n % 2 = 1 then n + 1
    else if within 0x391 0x3A9 ∧ n ≠ 0x3A2 then n + 32
    else if within 0x400 0x40F then n + 80
    else if within 0x410 0x42F then n + 32
    else n
  Char.ofNat m

def isIgnored (c : Char) : Bool := [0xAD, 0x200B, 0x2060, 0xFEFF].contains c.toNat

def isForbidden (c : Char) : Bool :=
  c.toNat ≤ 32 || c.toNat = 127 || "%#/:<>?@[\\]^|".toList.contains c ||
    (127 < c.toNat && isInvisible c) || c.toNat = 0xFFFD

def splitAt (c : Char) (text : List Char) : List (List Char) :=
  text.foldr (fun d parts =>
    match parts with
    | [] => [[d]]
    | part :: rest => if d = c then [] :: part :: rest else (d :: part) :: rest) [[]]

def punycodeMark : List Char := "xn--".toList

def isAscii (label : List Char) : Bool := label.all (·.toNat < 128)

/-- Whether a text is in Punycode for want of a better form. -/
def standsFor (text : List Char) : Bool :=
  (Punycode.decode? text).any fun label =>
    !isAscii label && label.all fun c => !isIgnored c && !isForbidden c && fold c = c

def asciiLabel? (label : List Char) : Option (List Char) :=
  match punycodeMark.isPrefixOf? label with
  | some text => if standsFor text then some label else none
  | none => if isAscii label then some label else some (punycodeMark ++ Punycode.encode label)

def ascii? (domain : List Char) : Option (List Char) :=
  let mapped := (domain.filter fun c => !isIgnored c).map fold
  if mapped.any isForbidden then none
  else ((splitAt '.' mapped).mapM asciiLabel?).map (List.intercalate ['.'])

end DynamicDns.Domain
