import DynamicDns.Text.Invisible

/-!
# Quoted text

Text shown inside a message stands in double quotes, with the quote and the backslash behind a
backslash, the usual letters for NUL, tab, newline and return, and any other character without a
glyph as `\u{..}` with its scalar in hexadecimal.
-/

namespace DynamicDns.Quoted

def hexText (n : Nat) : List Char := Nat.toDigits 16 n

def quoteChar (c : Char) : List Char :=
  if c = '"' then ['\\', '"']
  else if c = '\\' then ['\\', '\\']
  else if c = '\n' then ['\\', 'n']
  else if c = '\r' then ['\\', 'r']
  else if c = '\t' then ['\\', 't']
  else if c.toNat = 0 then ['\\', '0']
  else if c.toNat < 32 ∨ c.toNat = 127 ∨ (127 < c.toNat ∧ isInvisible c) then
    ['\\', 'u', '\x7b'] ++ hexText c.toNat ++ ['\x7d']
  else [c]

def quote (text : String) : String :=
  String.ofList ('"' :: (text.toList.flatMap quoteChar ++ ['"']))

end DynamicDns.Quoted
