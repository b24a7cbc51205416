import WireShadow.Json.Number
import WireShadow.Json.Text

namespace WireShadow.Json

/-- A scalar of a text: what it is when its value is wanted, and the fault that it shows even when
its value is skipped. -/
structure Token (α : Type) where
  value : Except Fault α
  skipped : Option Fault := none

def Token.skip {α : Type} (token : Token α) : Except Fault Unit :=
  match token.skipped with
  | none => .ok ()
  | some fault => .error fault

inductive Key
  | text (token : Token String)
  | missing (wanted skipped : Fault)

inductive Ending
  | closed | endOfText | noComma | danglingComma
deriving DecidableEq, Repr

/-- A text as far as it can be read. A fault stands in the place where the text has it, so that a
reader who goes from left to right meets it, or an item that does not fit, whichever comes first.
Where no value starts there is a `broken` one. -/
inductive Tree
  | null
  | bool (b : Bool)
  | badWord (fault : Fault)
  | number (token : Token Number)
  | string (token : Token String)
  | array (items : List Tree) (ending : Ending)
  | object (members : List (Key × Tree)) (ending : Ending)
  | broken (fault : Fault)

namespace Tree

def isSpace (c : Char) : Bool := c == ' ' || c == '\n' || c == '\t' || c == '\r'

def skipSpaces (cs : List Char) : List Char := cs.dropWhile isSpace

/-- What can be read of a value, with what follows it if it has no fault that ends the reading. -/
abbrev Scan := Tree × Option (List Char)

def scanWord (word : List Char) (tree : Tree) (cs : List Char) : Scan :=
  match word, cs with
  | [], cs => (tree, some cs)
  | _ :: _, [] => (badWord .endInValue, none)
  | w :: word, c :: cs => if w == c then scanWord word tree cs else (badWord .noWord, none)

def scanNumber (negative : Bool) (cs : List Char) : Scan :=
  match Numeral.read negative cs with
  | .error fault => (number ⟨.error fault, some .badNumber⟩, none)
  | .ok (numeral, cs) => (number ⟨numeral.value, none⟩, some cs)

def scanText (cs : List Char) : Token String × Option (List Char) :=
  match skipText cs with
  | .error fault => (⟨(readText [] cs).map (·.1), some fault⟩, none)
  | .ok rest => (⟨(readText [] cs).map (·.1), none⟩, some rest)

def scanString (cs : List Char) : Scan :=
  let (token, rest) := scanText cs
  (string token, rest)

def scanFlat : List Char → Scan
  | [] => (broken .endInValue, none)
  | 'n' :: cs => scanWord "ull".toList null cs
  | 't' :: cs => scanWord "rue".toList (bool true) cs
  | 'f' :: cs => scanWord "alse".toList (bool false) cs
  | '"' :: cs => scanString cs
  | '-' :: cs => scanNumber true cs
  | c :: cs => if c.isDigit then scanNumber false (c :: cs) else (broken .noValue, none)

def scanMember (value : List Char → Scan) (wanted skipped : Fault) :
    List Char → (Key × Tree) × Option (List Char)
  | '"' :: cs =>
    match scanText cs with
    | (token, none) => ((.text token, broken .endInObject), none)
    | (token, some cs) =>
      match skipSpaces cs with
      | ':' :: cs =>
        let (tree, rest) := value cs
        ((.text token, tree), rest)
      | [] => ((.text token, broken .endInObject), none)
      | _ => ((.text token, broken .noColon), none)
  | _ => ((.missing wanted skipped, broken wanted), none)

mutual

def scanValue : Nat → List Char → Scan
  | 0, _ => (broken .endInValue, none)
  | fuel + 1, cs =>
    match skipSpaces cs with
    | '[' :: cs =>
      match skipSpaces cs with
      | ']' :: cs => (array [] .closed, some cs)
      | [] => (array [] .endOfText, none)
      | cs =>
        let (items, ending, rest) := scanItems fuel cs
        (array items ending, rest)
    | '\x7b' :: cs =>
      match skipSpaces cs with
      | '\x7d' :: cs => (object [] .closed, some cs)
      | [] => (object [] .endOfText, none)
      | cs =>
        let (members, ending, rest) := scanMembers fuel .keyNotString .keyNotString cs
        (object members ending, rest)
    | cs => scanFlat cs

def scanItems : Nat → List Char → List Tree × Ending × Option (List Char)
  | 0, _ => ([], .endOfText, none)
  | fuel + 1, cs =>
    match scanValue fuel cs with
    | (item, none) => ([item], .endOfText, none)
    | (item, some cs) =>
      match skipSpaces cs with
      | ']' :: cs => ([item], .closed, some cs)
      | ',' :: cs =>
        match skipSpaces cs with
        | ']' :: _ => ([item], .danglingComma, none)
        | cs =>
          let (items, ending, rest) := scanItems fuel cs
          (item :: items, ending, rest)
      | [] => ([item], .endOfText, none)
      | _ => ([item], .noComma, none)

def scanMembers : Nat → Fault → Fault → List Char → List (Key × Tree) × Ending × Option (List Char)
  | 0, _, _, _ => ([], .endOfText, none)
  | fuel + 1, wanted, skipped, cs =>
    match scanMember (scanValue fuel) wanted skipped cs with
    | (member, none) => ([member], .endOfText, none)
    | (member, some cs) =>
      match skipSpaces cs with
      | '\x7d' :: cs => ([member], .closed, some cs)
      | ',' :: cs =>
        let cs := skipSpaces cs
        let (wanted, skipped) : Fault × Fault := match cs with
          | [] => (.endInValue, .endInObject)
          | '\x7d' :: _ => (.trailingComma, .keyNotString)
          | _ => (.keyNotString, .keyNotString)
        let (members, ending, rest) := scanMembers fuel wanted skipped cs
        (member :: members, ending, rest)
      | [] => ([member], .endOfText, none)
      | _ => ([member], .noComma, none)

end

/-- A text as a value and what follows it. Two steps for each character are enough. -/
def scan (cs : List Char) : Scan := scanValue (2 * cs.length + 2) cs

mutual

def skip : Tree → Except Fault Unit
  | null | bool _ => .ok ()
  | number token => token.skip
  | string token => token.skip
  | array items ending => do
    skipItems items
    match ending with
    | .closed => return
    | .endOfText => throw .endInArray
    | .noComma => throw .noArrayEnd
    | .danglingComma => throw .noValue
  | object members ending => do
    skipMembers members
    match ending with
    | .closed => return
    | .endOfText => throw .endInObject
    | .noComma => throw .noObjectEnd
    | .danglingComma => throw .keyNotString
  | badWord fault | broken fault => .error fault

def skipItems : List Tree → Except Fault Unit
  | [] => .ok ()
  | item :: items => do
    item.skip
    skipItems items

def skipMembers : List (Key × Tree) → Except Fault Unit
  | [] => .ok ()
  | (key, value) :: members => do
    match key with
    | .text token => token.skip
    | .missing _ skipped => throw skipped
    value.skip
    skipMembers members

end

end Tree

end WireShadow.Json
