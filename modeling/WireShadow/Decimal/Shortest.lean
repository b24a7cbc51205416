namespace WireShadow.Decimal

/-- A positive double: `significand * 2 ^ exponent`. The next smaller double is half as far away as
the next larger one when `narrow` holds. -/
structure Binary where
  significand : Nat
  exponent : Int
  narrow : Bool
deriving Repr

namespace Binary

def ofFloat? (x : Float) : Option Binary :=
  let bits := x.toBits.toNat
  let unit := 1 <<< 52
  let fraction := bits % unit
  match bits / unit % (1 <<< 11) with
  | 0 => if fraction = 0 then none else some ⟨fraction, -1074, false⟩
  | e + 1 => some ⟨unit + fraction, (e : Int) - 1074, fraction = 0 && e != 0⟩

/-- Ends of the interval of reals that round to the double, with the double between them, in quarters
of the last binary place. -/
def low (b : Binary) : Nat := 4 * b.significand - if b.narrow then 1 else 2

def middle (b : Binary) : Nat := 4 * b.significand

def high (b : Binary) : Nat := 4 * b.significand + 2

def quarter (b : Binary) : Nat × Nat := (Nat.pow 2 (b.exponent - 2).toNat, Nat.pow 2 (2 - b.exponent).toNat)

def leading (b : Binary) : Int :=
  let (up, down) := b.quarter
  let whole := b.middle * up / down
  if whole ≠ 0 then (Nat.toDigits 10 whole).length - 1
  else -(Nat.toDigits 10 ((down - 1) / (b.middle * up))).length

/-- The multiple of `10 ^ k` that rounds to the double and is nearest to it, an even one if two are
equally near. Only the two neighbours of the double on the grid are looked at: if any multiple
rounds to it, so does one of these. -/
def nearest? (b : Binary) (k : Int) : Option Nat :=
  let (up, down) := b.quarter
  let unit := Nat.pow 10 k.toNat * down
  let scale := up * Nat.pow 10 (-k).toNat
  let fits (c : Nat) : Bool :=
    if b.significand % 2 = 0 then b.low * scale ≤ c * unit && c * unit ≤ b.high * scale
    else b.low * scale < c * unit && c * unit < b.high * scale
  let below := b.middle * scale / unit
  match fits below, fits (below + 1) with
  | false, false => none
  | true, false => some below
  | false, true => some (below + 1)
  | true, true =>
    match compare (2 * b.middle * scale) ((2 * below + 1) * unit) with
    | .lt => some below
    | .gt => some (below + 1)
    | .eq => some (if below % 2 = 0 then below else below + 1)

end Binary

structure Digits where
  digits : List Char
  leading : Int
deriving Repr, DecidableEq

/-- The fewest digits that read back as the double; seventeen always do. -/
def shortest (b : Binary) : Digits :=
  let found := (List.range 17).findSome? fun (n : Nat) =>
    let k := b.leading - (n : Int)
    (b.nearest? k).map fun c => (Nat.toDigits 10 c, k)
  let (digits, k) := found.getD (['0'], 0)
  ⟨(digits.reverse.dropWhile (· == '0')).reverse, k + digits.length - 1⟩

end WireShadow.Decimal
