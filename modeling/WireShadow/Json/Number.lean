import WireShadow.Json.Problem

namespace WireShadow.Json

/-- A number is an integer if it is written as one and fits into a word of 64 bits, signed or not. -/
inductive Number
  | integer (n : Int)
  | real (x : Float)
deriving Repr

structure Numeral where
  negative : Bool
  whole : List Char
  fraction : List Char := []
  exponent : Option (Bool × List Char) := none
deriving Repr

namespace Numeral

def someDigits (cs : List Char) : Except Fault (List Char × List Char) :=
  match cs.takeWhile Char.isDigit, cs with
  | [], [] => .error .endInValue
  | [], _ => .error .badNumber
  | ds, cs => .ok (ds, cs.dropWhile Char.isDigit)

def readWhole (cs : List Char) : Except Fault (List Char × List Char) := do
  let (ds, rest) ← someDigits cs
  match ds with
  | '0' :: _ :: _ => throw .badNumber
  | ds => return (ds, rest)

def readFraction : List Char → Except Fault (List Char × List Char)
  | '.' :: cs => someDigits cs
  | cs => .ok ([], cs)

def readExponent : List Char → Except Fault (Option (Bool × List Char) × List Char)
  | c :: cs =>
    if c == 'e' || c == 'E' then do
      let (negative, cs) := match cs with
        | '-' :: cs => (true, cs)
        | '+' :: cs => (false, cs)
        | cs => (false, cs)
      let (ds, rest) ← someDigits cs
      return (some (negative, ds), rest)
    else .ok (none, c :: cs)
  | [] => .ok (none, [])

def read (negative : Bool) (cs : List Char) : Except Fault (Numeral × List Char) := do
  let (whole, cs) ← readWhole cs
  let (fraction, cs) ← readFraction cs
  let (exponent, cs) ← readExponent cs
  return ({ negative, whole, fraction, exponent }, cs)

def digit (c : Char) : Nat := c.toNat - '0'.toNat

def natural (ds : List Char) : Nat := ds.foldl (fun n d => 10 * n + digit d) 0

/-- Appends digits to a number as long as it fits into 64 bits, and counts the digits left out. -/
def gather (n : Nat) : List Char → Nat × Nat
  | [] => (n, 0)
  | d :: ds =>
    let next := 10 * n + digit d
    if next < UInt64.size then gather next ds else (n, ds.length + 1)

def powerOfTen (n : Nat) : Float := Float.ofScientific 1 false n

def shrink (x : Float) (n : Nat) : Float :=
  if n ≤ 308 then x / powerOfTen n
  else if x == 0 then x
  else shrink (x / powerOfTen 308) (n - 308)
termination_by n
decreasing_by omega

def scale (significand : Nat) : Int → Except Fault Float
  | .ofNat n =>
    if significand = 0 then .ok 0
    else if n ≤ 308 then
      let x := significand.toUInt64.toFloat * powerOfTen n
      if x.isInf then .error .hugeNumber else .ok x
    else .error .hugeNumber
  | .negSucc n => .ok (shrink significand.toUInt64.toFloat (n + 1))

/-- The double that a number stands for. Digits that no longer fit into the significand count only
for the exponent if they stand before the point, and not at all behind it. An exponent that is no
word of 32 bits stands for zero or for a number out of range. -/
def size (n : Numeral) : Except Fault Float :=
  let (whole, left) := gather 0 n.whole
  let (significand, left') := gather whole n.fraction
  let places : Int := left - (n.fraction.length - left' : Nat)
  match n.exponent with
  | none => scale significand places
  | some (negative, ds) =>
    let e := natural ds
    if 2 * e < UInt32.size then scale significand (if negative then places - e else places + e)
    else if significand = 0 || negative then .ok 0
    else .error .hugeNumber

def value (n : Numeral) : Except Fault Number :=
  let (whole, left) := gather 0 n.whole
  if n.fraction = [] && n.exponent = none && left = 0 then
    if !n.negative then .ok (.integer whole)
    else if 0 < whole && 2 * whole ≤ UInt64.size then .ok (.integer (-whole))
    else .ok (.real (-whole.toUInt64.toFloat))
  else n.size.map fun x => .real (if n.negative then -x else x)

end Numeral

end WireShadow.Json
