namespace WireShadow.Toml

/-- Strings hold tabs but no other controls; a line end is a matter of the kind of string. -/
def isPlain (c : Char) : Bool := c == '\t' || (0x20 ≤ c.toNat && c.toNat != 0x7f)

def hexValue? (c : Char) : Option Nat :=
  if c.isDigit then some (c.toNat - '0'.toNat)
  else if 'a' ≤ c && c ≤ 'f' then some (c.toNat - 'a'.toNat + 10)
  else if 'A' ≤ c && c ≤ 'F' then some (c.toNat - 'A'.toNat + 10)
  else none

def readCode (count : Nat) (cs : List Char) : Option Char := do
  let digits ← (cs.take count).mapM hexValue?
  let n := digits.foldl (fun n d => 16 * n + d) 0
  if digits.length = count ∧ n.isValidChar then some (Char.ofNat n) else none

def letterEscapes : List (Char × Char) :=
  [('b', '\x08'), ('t', '\t'), ('n', '\n'), ('f', '\x0c'), ('r', '\r'), ('e', '\x1b'), ('"', '"'),
    ('\\', '\\')]

def codeEscapes : List (Char × Nat) := [('x', 2), ('u', 4), ('U', 8)]

def readEscape : List Char → Option (Char × Nat)
  | [] => none
  | c :: cs =>
    match letterEscapes.lookup c, codeEscapes.lookup c with
    | some e, _ => some (e, 1)
    | none, some count => (readCode count cs).map fun e => (e, count + 1)
    | none, none => none

def isInlineBlank (c : Char) : Bool := c == ' ' || c == '\t'

def lineEnd? : List Char → Option (List Char)
  | '\n' :: cs => some cs
  | '\r' :: '\n' :: cs => some cs
  | _ => none

def readBasic (read : List Char) : List Char → Option (String × List Char)
  | [] => none
  | '"' :: cs => some (String.ofList read.reverse, cs)
  | '\\' :: cs =>
    match readEscape cs with
    | some (c, used) => readBasic (c :: read) (cs.drop used)
    | none => none
  | c :: cs => if isPlain c then readBasic (c :: read) cs else none
termination_by cs => cs.length
decreasing_by all_goals simp only [List.length_cons, List.length_drop]; omega

def readLiteral (read : List Char) : List Char → Option (String × List Char)
  | [] => none
  | '\'' :: cs => some (String.ofList read.reverse, cs)
  | c :: cs => if isPlain c then readLiteral (c :: read) cs else none

def skipLines : List Char → List Char
  | '\r' :: '\n' :: cs => skipLines cs
  | c :: cs => if isInlineBlank c || c == '\n' then skipLines cs else c :: cs
  | [] => []

/-- How many quotes stand at the front of a text. Up to two belong to a long string, three close it,
and up to two more may stand before these. -/
def quoteRun (quote : Char) (cs : List Char) : Nat := (cs.takeWhile (· == quote)).length

def close (quote : Char) (run : Nat) (read cs : List Char) : Option (String × List Char) :=
  if run ≤ 5 then some (String.ofList (read.reverse ++ List.replicate (run - 3) quote), cs.drop run)
  else none

/-- A string over several lines, where a line end is written as one character. A backslash before a line
end joins the lines, without the blanks between them. -/
def readLongBasic : Nat → List Char → List Char → Option (String × List Char)
  | 0, _, _ => none
  | fuel + 1, read, cs =>
    match cs with
    | [] => none
    | '"' :: rest =>
      let run := quoteRun '"' cs
      if run < 3 then readLongBasic fuel ('"' :: read) rest else close '"' run read cs
    | '\\' :: cs =>
      match lineEnd? (cs.dropWhile isInlineBlank) with
      | some rest => readLongBasic fuel read (skipLines rest)
      | none =>
        match readEscape cs with
        | some (c, used) => readLongBasic fuel (c :: read) (cs.drop used)
        | none => none
    | c :: rest =>
      match lineEnd? cs with
      | some rest => readLongBasic fuel ('\n' :: read) rest
      | none => if isPlain c then readLongBasic fuel (c :: read) rest else none

def readLongLiteral : Nat → List Char → List Char → Option (String × List Char)
  | 0, _, _ => none
  | fuel + 1, read, cs =>
    match cs with
    | [] => none
    | '\'' :: rest =>
      let run := quoteRun '\'' cs
      if run < 3 then readLongLiteral fuel ('\'' :: read) rest else close '\'' run read cs
    | c :: rest =>
      match lineEnd? cs with
      | some rest => readLongLiteral fuel ('\n' :: read) rest
      | none => if isPlain c then readLongLiteral fuel (c :: read) rest else none

def isBare (c : Char) : Bool := c.isAlphanum || c == '-' || c == '_'

def readKey : List Char → Option (String × List Char)
  | '"' :: cs => readBasic [] cs
  | '\'' :: cs => readLiteral [] cs
  | cs =>
    let word := cs.takeWhile isBare
    if word.isEmpty then none else some (String.ofList word, cs.drop word.length)

end WireShadow.Toml
