import WireShadow.Json.Text

namespace WireShadow.Json

inductive Value
  | null
  | bool (b : Bool)
  | integer (n : Int)
  | string (s : String)
  | array (items : List Value)
  | object (members : List (String × Value))
deriving Inhabited

namespace Value

def join (separator : List Char) : List (List Char) → List Char
  | [] => []
  | [cs] => cs
  | cs :: rest => cs ++ separator ++ join separator rest

def integerText (n : Int) : List Char :=
  match n with
  | .ofNat n => Nat.toDigits 10 n
  | .negSucc n => '-' :: Nat.toDigits 10 (n + 1)

def wordText (b : Bool) : List Char := if b then "true".toList else "false".toList

mutual

def compactChars : Value → List Char
  | null => "null".toList
  | bool b => wordText b
  | integer n => integerText n
  | string s => writeText s
  | array items => '[' :: join [','] (compactItems items) ++ [']']
  | object members => '\x7b' :: join [','] (compactMembers members) ++ ['\x7d']

def compactItems : List Value → List (List Char)
  | [] => []
  | item :: items => item.compactChars :: compactItems items

def compactMembers : List (String × Value) → List (List Char)
  | [] => []
  | (key, value) :: members => (writeText key ++ ':' :: value.compactChars) :: compactMembers members

end

def compact (v : Value) : String := String.ofList v.compactChars

def newline (depth : Nat) : List Char := '\n' :: List.replicate (2 * depth) ' '

def block (opening closing : Char) (depth : Nat) (items : List (List Char)) : List Char :=
  if items.isEmpty then [opening, closing]
  else
    opening :: newline (depth + 1) ++ join (',' :: newline (depth + 1)) items ++ newline depth ++
      [closing]

mutual

def prettyChars (depth : Nat) : Value → List Char
  | null => "null".toList
  | bool b => wordText b
  | integer n => integerText n
  | string s => writeText s
  | array items => block '[' ']' depth (prettyItems (depth + 1) items)
  | object members => block '\x7b' '\x7d' depth (prettyMembers (depth + 1) members)

def prettyItems (depth : Nat) : List Value → List (List Char)
  | [] => []
  | item :: items => item.prettyChars depth :: prettyItems depth items

def prettyMembers (depth : Nat) : List (String × Value) → List (List Char)
  | [] => []
  | (key, value) :: members =>
    (writeText key ++ ':' :: ' ' :: value.prettyChars depth) :: prettyMembers depth members

end

def pretty (v : Value) : String := String.ofList (v.prettyChars 0)

end Value

end WireShadow.Json
