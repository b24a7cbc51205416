import WireShadow.Decimal.Shortest

namespace WireShadow.Decimal

/-- How a format writes a double: the exponents of the first digit for which it writes all places,
or none if it always does. Any other double gets an exponent with a sign. -/
structure Layout where
  positional : Option (Int × Int)

namespace Layout

def isPositional (layout : Layout) (leading : Int) : Bool :=
  match layout.positional with
  | none => true
  | some (lowest, highest) => lowest ≤ leading && leading ≤ highest

def plain (d : Digits) : List Char :=
  if d.leading < 0 then
    '0' :: '.' :: List.replicate (-d.leading - 1).toNat '0' ++ d.digits
  else
    let whole := (d.leading + 1).toNat
    let after := if d.digits.length ≤ whole then ['0'] else d.digits.drop whole
    (d.digits ++ List.replicate (whole - d.digits.length) '0').take whole ++ '.' :: after

def scientific (d : Digits) : List Char :=
  let fraction := if d.digits.length ≤ 1 then [] else '.' :: d.digits.drop 1
  let sign := if d.leading < 0 then '-' else '+'
  d.digits.take 1 ++ fraction ++ 'e' :: sign :: Nat.toDigits 10 d.leading.natAbs

def text (layout : Layout) (x : Float) : String :=
  if x.isNaN then "NaN.0"
  else
    let sign := if x.toBits >>> 63 = 0 then "" else "-"
    if x.isInf then sign ++ "inf.0"
    else
      let digits := ((Binary.ofFloat? x).map shortest).getD ⟨['0'], 0⟩
      sign ++ String.ofList (if layout.isPositional digits.leading then plain digits else scientific digits)

end Layout

end WireShadow.Decimal
