import WireShadow.Toml.Text
import WireShadow.Toml.Value

namespace WireShadow.Toml

/-- Digits of a base, with underscores only between them. -/
def digits? (base : Nat) (cs : List Char) : Option (List Nat) :=
  match cs with
  | [] => none
  | [c] => (hexValue? c).bind fun d => if d < base then some [d] else none
  | c :: '_' :: cs => do
    let d ← hexValue? c
    let ds ← digits? base cs
    if d < base then some (d :: ds) else none
  | c :: cs => do
    let d ← hexValue? c
    let ds ← digits? base cs
    if d < base then some (d :: ds) else none

def natural (base : Nat) (ds : List Nat) : Nat := ds.foldl (fun n d => base * n + d) 0

def decimal? (cs : List Char) : Option (List Nat) := digits? 10 cs

def whole? (cs : List Char) : Option (List Nat) :=
  match decimal? cs with
  | some (0 :: _ :: _) => none
  | ds => ds

def sign : List Char → Bool × List Char
  | '-' :: cs => (true, cs)
  | '+' :: cs => (false, cs)
  | cs => (false, cs)

def inWord (n : Int) : Option Value :=
  if Int64.minValue.toInt ≤ n ∧ n.toNat < UInt64.size then some (.integer n) else none

def integer? (cs : List Char) : Option Value :=
  match cs with
  | '0' :: 'x' :: cs => (digits? 16 cs).bind fun ds => inWord (natural 16 ds)
  | '0' :: 'o' :: cs => (digits? 8 cs).bind fun ds => inWord (natural 8 ds)
  | '0' :: 'b' :: cs => (digits? 2 cs).bind fun ds => inWord (natural 2 ds)
  | cs =>
    let (negative, cs) := sign cs
    (whole? cs).bind fun ds => inWord (if negative then -natural 10 ds else natural 10 ds)

/-- The double nearest to `n * 10 ^ e`, where exponents far out of range are not computed with. -/
def nearest (n : Nat) (e : Int) : Float :=
  if n = 0 || e < -(400 + (Nat.toDigits 10 n).length : Int) then 0
  else if e < 0 then Float.ofScientific n true e.natAbs
  else Float.ofScientific n false (min e.natAbs 400)

def isExponentMark (c : Char) : Bool := c == 'e' || c == 'E'

def exponent? (cs : List Char) : Option Int :=
  match cs with
  | [] => some 0
  | _ :: cs =>
    let (negative, cs) := sign cs
    (decimal? cs).map fun ds => if negative then -(natural 10 ds : Int) else natural 10 ds

def real? (cs : List Char) : Option Value := do
  let (negative, cs) := sign cs
  let signed (x : Float) : Value := .real (if negative then -x else x)
  if cs = "inf".toList then return signed (1 / 0)
  if cs = "nan".toList then return signed (0 / 0)
  let mantissa := cs.takeWhile (!isExponentMark ·)
  let exponent ← exponent? (cs.drop mantissa.length)
  let front := mantissa.takeWhile (· != '.')
  let wholeDigits ← whole? front
  let fraction ← match mantissa.drop front.length with
    | [] => some []
    | _ :: fraction => decimal? fraction
  let x := nearest (natural 10 (wholeDigits ++ fraction)) (exponent - fraction.length)
  if x.isInf then none else return signed x

def fixed? (count : Nat) (cs : List Char) : Option Nat :=
  if cs.length = count && cs.all Char.isDigit then (decimal? cs).map (natural 10) else none

def isLeap (year : Nat) : Bool := year % 4 = 0 && (year % 100 != 0 || year % 400 = 0)

def daysIn (year month : Nat) : Nat :=
  if month = 2 then (if isLeap year then 29 else 28)
  else if month ∈ [4, 6, 9, 11] then 30
  else 31

def isDate (cs : List Char) : Bool :=
  match cs with
  | [y₁, y₂, y₃, y₄, '-', m₁, m₂, '-', d₁, d₂] =>
    match fixed? 4 [y₁, y₂, y₃, y₄], fixed? 2 [m₁, m₂], fixed? 2 [d₁, d₂] with
    | some y, some m, some d => 1 ≤ m && m ≤ 12 && 1 ≤ d && d ≤ daysIn y m
    | _, _, _ => false
  | _ => false

def below (limit : Nat) (cs : List Char) : Bool := (fixed? 2 cs).any (· < limit)

def isTime (cs : List Char) : Bool :=
  match cs with
  | h₁ :: h₂ :: ':' :: m₁ :: m₂ :: rest =>
    below 24 [h₁, h₂] && below 60 [m₁, m₂] &&
      match rest with
      | [] => true
      | ':' :: s₁ :: s₂ :: rest =>
        below 61 [s₁, s₂] &&
          match rest with
          | [] => true
          | '.' :: fraction => !fraction.isEmpty && fraction.all Char.isDigit
          | _ => false
      | _ => false
  | _ => false

def isOffset (cs : List Char) : Bool :=
  match cs with
  | ['z'] | ['Z'] => true
  | s :: h₁ :: h₂ :: ':' :: m => (s == '+' || s == '-') && below 24 [h₁, h₂] && below 60 m
  | _ => false

def isZonedTime (cs : List Char) : Bool :=
  let time := cs.takeWhile fun c => c.isDigit || c == ':' || c == '.'
  isTime time && (time.length = cs.length || isOffset (cs.drop time.length))

def isMoment (cs : List Char) : Bool :=
  isTime cs || isDate (cs.take 10) &&
    match cs.drop 10 with
    | [] => true
    | t :: time => (t == 'T' || t == 't' || t == ' ') && isZonedTime time

def isWordChar (c : Char) : Bool := c.isAlphanum || c == '_' || c == '+' || c == '-' || c == '.' || c == ':'

/-- The word at the front of a text. A blank belongs to it between a date and a time. -/
def word (cs : List Char) : List Char :=
  let first := cs.takeWhile isWordChar
  match isDate first, cs.drop first.length with
  | true, ' ' :: c :: rest => if c.isDigit then first ++ ' ' :: (c :: rest).takeWhile isWordChar else first
  | _, _ => first

def scalar? (cs : List Char) : Option Value :=
  if cs = "true".toList then some (.bool true)
  else if cs = "false".toList then some (.bool false)
  else (integer? cs).orElse fun _ => (real? cs).orElse fun _ => if isMoment cs then some .moment else none

end WireShadow.Toml
