import WireShadow.Json.Problem

namespace WireShadow.Json

def hexDigit? (c : Char) : Option Nat :=
  if c.isDigit then some (c.toNat - '0'.toNat)
  else if 'a' ≤ c && c ≤ 'f' then some (c.toNat - 'a'.toNat + 10)
  else if 'A' ≤ c && c ≤ 'F' then some (c.toNat - 'A'.toNat + 10)
  else none

/-- The four hexadecimal digits at the front of a text. Without four bytes left, the string cannot
have ended. -/
def codeUnit (cs : List Char) : Except Fault Nat :=
  match (cs.take 4).mapM hexDigit? with
  | some [a, b, c, d] => .ok (((a * 16 + b) * 16 + c) * 16 + d)
  | _ => .error (if (String.ofList (cs.take 4)).utf8ByteSize < 4 then .endInString else .badEscape)

def isHighSurrogate (n : Nat) : Bool := 0xd800 ≤ n && n < 0xdc00

def isLowSurrogate (n : Nat) : Bool := 0xdc00 ≤ n && n < 0xe000

def joinSurrogates (high low : Nat) : Char :=
  Char.ofNat ((high - 0xd800) * 0x400 + (low - 0xdc00) + 0x10000)

def shortEscapes : List (Char × Char) :=
  [('"', '"'), ('\\', '\\'), ('/', '/'), ('b', '\x08'), ('f', '\x0c'), ('n', '\n'), ('r', '\r'),
    ('t', '\t')]

def isControl (c : Char) : Bool := c.toNat < 0x20

def readText (read : List Char) : List Char → Except Fault (String × List Char)
  | [] => .error .endInString
  | '"' :: cs => .ok (String.ofList read.reverse, cs)
  | ['\\'] => .error .endInString
  | '\\' :: 'u' :: cs =>
    match codeUnit cs with
    | .error fault => .error fault
    | .ok n =>
      if isLowSurrogate n then .error .loneSurrogate
      else if isHighSurrogate n then
        match _h : cs.drop 4 with
        | [] | ['\\'] => .error .endInString
        | '\\' :: 'u' :: ds =>
          match codeUnit ds with
          | .error fault => .error fault
          | .ok m =>
            if isLowSurrogate m then readText (joinSurrogates n m :: read) (ds.drop 4)
            else .error .loneSurrogate
        | _ => .error .unpairedHigh
      else readText (Char.ofNat n :: read) (cs.drop 4)
  | '\\' :: c :: cs =>
    match shortEscapes.lookup c with
    | some c => readText (c :: read) cs
    | none => .error .badEscape
  | c :: cs => if isControl c then .error .control else readText (c :: read) cs
termination_by cs => cs.length
decreasing_by
  all_goals simp only [List.length_drop, List.length_cons]
  · have := congrArg List.length _h
    simp only [List.length_drop, List.length_cons] at this
    omega
  all_goals omega

/-- What follows a string that is not used, read behind its opening quote. Its surrogates need not
be paired. -/
def skipText : List Char → Except Fault (List Char)
  | [] => .error .endInString
  | '"' :: cs => .ok cs
  | ['\\'] => .error .endInString
  | '\\' :: 'u' :: cs =>
    match codeUnit cs with
    | .error fault => .error fault
    | .ok _ => skipText (cs.drop 4)
  | '\\' :: c :: cs => if (shortEscapes.lookup c).isSome then skipText cs else .error .badEscape
  | c :: cs => if isControl c then .error .control else skipText cs
termination_by cs => cs.length
decreasing_by all_goals simp only [List.length_drop, List.length_cons]; omega

/-- A character as it is written in a string: by a letter if it has one, except for the slash, and
otherwise by its number if it is a control. -/
def writeChar (c : Char) : List Char :=
  match shortEscapes.find? fun e => e.2 == c && e.1 != '/' with
  | some (letter, _) => ['\\', letter]
  | none =>
    if isControl c then
      '\\' :: 'u' :: '0' :: '0' :: Nat.digitChar (c.toNat / 16) :: [Nat.digitChar (c.toNat % 16)]
    else [c]

def writeText (s : String) : List Char := '"' :: s.toList.flatMap writeChar ++ ['"']

end WireShadow.Json
