/-!
# The shortest decimal of a float

A finite binary64 number is `m · 2 ^ q`. Its shortest decimal is the one with the fewest digits
among those that read back as the same number, and of those the nearest to it. Everything is
decided in exact integer arithmetic: for one digit, two digits, and so on, the two neighbours of
the number on that decimal grid are compared with the interval of reals that round to it.
-/

namespace DynamicDns.Decimal

/-- A finite number `mantissa · 2 ^ exponent`, with its sign apart. -/
structure Binary where
  negative : Bool
  mantissa : Nat
  exponent : Int

/-- The number of fractions at one scale: the values of 52 bits. -/
def fractions : Nat := 0x10000000000000

/-- The number of scales: the values of 11 bits. -/
def scales : Nat := 0x800

/-- The number that a pattern of bits stands for; the pattern is taken to be a finite one. -/
def Binary.ofBits (bits : UInt64) : Binary :=
  let word := bits.toNat
  let fraction := word % fractions
  let scale := word / fractions % scales
  let negative := word / (fractions * scales) == 1
  if scale = 0 then ⟨negative, fraction, -1074⟩
  else ⟨negative, fractions + fraction, (scale : Int) - 1075⟩

/-- A decimal `coefficient · 10 ^ exponent`. -/
structure Scaled where
  coefficient : Nat
  exponent : Int

/-- `base ^ k` as a fraction. -/
def power (base : Nat) (k : Int) : Nat × Nat :=
  if 0 ≤ k then (base.pow k.toNat, 1) else (1, base.pow (-k).toNat)

/-- `a · base ^ k ≤ b · 2 ^ j`, by cross-multiplication. -/
def decimalLeBinary (a : Nat) (k : Int) (b : Nat) (j : Int) : Bool :=
  let (tn, td) := power 10 k
  let (bn, bd) := power 2 j
  a * tn * bd ≤ b * bn * td

/-- `b · 2 ^ j ≤ a · 10 ^ k`. -/
def binaryLeDecimal (b : Nat) (j : Int) (a : Nat) (k : Int) : Bool :=
  let (tn, td) := power 10 k
  let (bn, bd) := power 2 j
  b * bn * td ≤ a * tn * bd

/-- `a · 10 ^ k` rounds to the number: it lies between the midpoints to the two neighbours, and a
midpoint counts when the mantissa is even. -/
def roundsTo (number : Binary) (a : Nat) (k : Int) : Bool :=
  let even := number.mantissa % 2 = 0
  let m := number.mantissa
  let q := number.exponent
  let narrow := m = fractions ∧ -1074 < q
  let (low, lowScale) := if narrow then (4 * m - 1, q - 2) else (2 * m - 1, q - 1)
  let (high, highScale) := (2 * m + 1, q - 1)
  if even then binaryLeDecimal low lowScale a k && decimalLeBinary a k high highScale
  else !decimalLeBinary a k low lowScale && !binaryLeDecimal high highScale a k

/-- The number of decimal digits of a positive number. -/
def digitCount (n : Nat) : Nat := (Nat.toDigits 10 n).length

/-- `⌊number / 10 ^ k⌋`. -/
def floorOnGrid (number : Binary) (k : Int) : Nat :=
  let (bn, bd) := power 2 number.exponent
  let (tn, td) := power 10 k
  number.mantissa * bn * td / (bd * tn)

def magnitude (number : Binary) : Int := digitCount (floorOnGrid number (-400)) - 401

/-- Whether `a · 10 ^ k` is at least as near to the number as `(a + 1) · 10 ^ k`; an even `a` wins
a tie. -/
def lowerIsNearer (number : Binary) (a : Nat) (k : Int) : Bool :=
  let middle := 2 * a + 1
  let above := !decimalLeBinary middle k (2 * number.mantissa) number.exponent
  let tie := decimalLeBinary middle k (2 * number.mantissa) number.exponent &&
    binaryLeDecimal (2 * number.mantissa) number.exponent middle k
  above || (tie && a % 2 = 0)

/-- The best point of one decimal grid, if a point of it rounds to the number. -/
def onGrid? (number : Binary) (k : Int) : Option Scaled :=
  let a := floorOnGrid number k
  match roundsTo number a k, roundsTo number (a + 1) k with
  | true, true => some ⟨if lowerIsNearer number a k then a else a + 1, k⟩
  | true, false => some ⟨a, k⟩
  | false, true => some ⟨a + 1, k⟩
  | false, false => none

/-- Drops trailing zeros of the coefficient, at most so many. -/
def trim : Nat → Scaled → Scaled
  | 0, d => d
  | n + 1, d => if d.coefficient % 10 = 0 then trim n ⟨d.coefficient / 10, d.exponent + 1⟩ else d

/-- The shortest decimal of a finite number; seventeen digits are always enough. -/
def shortest (number : Binary) : Scaled :=
  if number.mantissa = 0 then ⟨0, 0⟩
  else
    let top := magnitude number
    let found := (List.range 17).findSome? fun n : Nat => onGrid? number (top - n)
    trim 20 (found.getD ⟨0, 0⟩)

end DynamicDns.Decimal
