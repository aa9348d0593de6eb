import DynamicDns.Decimal.Shortest

/-!
# Writing floats

The digits of a float are those of its shortest decimal; a `Layout` says how they are set out:
which magnitudes are written positionally, and whether a whole number keeps a fraction. Outside the
positional range one digit stands before the point and the exponent follows an `e`, without sign or
padding unless it is negative.
-/

namespace DynamicDns.Decimal

/-- How the digits of a float are set out. The bounds are on the place of the decimal point,
counted from the first digit; without bounds every number is positional. -/
structure Layout where
  pointRange : Option (Int × Int)
  wholeSuffix : String

/-- JSON text: positional for points from four places before the first digit to sixteen behind it,
and always recognisable as a float. -/
def json : Layout := ⟨some (-4, 16), ".0"⟩

/-- Metrics text: always positional, and whole numbers as integers. -/
def plain : Layout := ⟨none, ""⟩

/-- The digits with the point after so many of them. -/
def positional (layout : Layout) (digits : String) (point : Int) : String :=
  let count : Int := digits.length
  if point ≤ 0 then "0." ++ String.ofList (List.replicate (-point).toNat '0') ++ digits
  else if count ≤ point then
    digits ++ String.ofList (List.replicate (point - count).toNat '0') ++ layout.wholeSuffix
  else
    String.ofList (digits.toList.take point.toNat) ++ "." ++
      String.ofList (digits.toList.drop point.toNat)

/-- One digit before the point, and the exponent behind. -/
def scientific (digits : String) (point : Int) : String :=
  let exponent := "e" ++ toString (point - 1)
  match digits.toList with
  | [] => ""
  | [digit] => String.singleton digit ++ exponent
  | digit :: rest => String.singleton digit ++ "." ++ String.ofList rest ++ exponent

/-- The text of the finite float with the given bits. -/
def render (layout : Layout) (bits : UInt64) : String :=
  let number := Binary.ofBits bits
  let sign := if number.negative then "-" else ""
  let decimal := shortest number
  if decimal.coefficient = 0 then sign ++ "0" ++ layout.wholeSuffix
  else
    let digits := toString decimal.coefficient
    let point : Int := digits.length + decimal.exponent
    let inRange := match layout.pointRange with
      | none => true
      | some (low, high) => decide (low ≤ point ∧ point ≤ high)
    sign ++ if inRange then positional layout digits point else scientific digits point

end DynamicDns.Decimal
