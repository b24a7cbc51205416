import WireShadow.Data.Fields
import WireShadow.Json.Tree

namespace WireShadow.Json

open Data

/-- How many arrays and objects may stand inside each other where their contents are used. -/
def levels : Nat := 127

/-- A reader of data, with the number of levels that are left. -/
abbrev Decoder (α : Type) := Nat → Tree → Except Problem α

namespace Decode

variable {α τ : Type}

def misfit (wanted : String) : Tree → Problem
  | .null => .mismatch (.wrongType .null wanted)
  | .bool b => .mismatch (.wrongType (.bool b) wanted)
  | .number ⟨.ok (.integer n), _⟩ => .mismatch (.wrongType (.integer n) wanted)
  | .number ⟨.ok (.real x), _⟩ => .mismatch (.wrongType (.real x) wanted)
  | .string ⟨.ok s, _⟩ => .mismatch (.wrongType (.string s) wanted)
  | .array _ _ => .mismatch (.wrongType .sequence wanted)
  | .object _ _ => .mismatch (.wrongType .map wanted)
  | .number ⟨.error fault, _⟩ | .string ⟨.error fault, _⟩ | .badWord fault | .broken fault =>
    .malformed fault

def text : Tree → Except Problem String
  | .string ⟨.ok s, _⟩ => .ok s
  | tree => .error (misfit "a string" tree)

def boolean : Tree → Except Problem Bool
  | .bool b => .ok b
  | tree => .error (misfit "a boolean" tree)

def unit : Tree → Except Problem Unit
  | .null => .ok ()
  | tree => .error (misfit "unit" tree)

def int64 : Tree → Except Problem Int64
  | .number ⟨.ok (.integer n), _⟩ =>
    if Int64.minValue.toInt ≤ n ∧ n ≤ Int64.maxValue.toInt then .ok (Int64.ofInt n)
    else .error (.mismatch (.wrongValue (.integer n) "i64"))
  | tree => .error (misfit "i64" tree)

def uint32 : Tree → Except Problem UInt32
  | .number ⟨.ok (.integer n), _⟩ =>
    if 0 ≤ n ∧ n.toNat < UInt32.size then .ok (UInt32.ofNat n.toNat)
    else .error (.mismatch (.wrongValue (.integer n) "u32"))
  | tree => .error (misfit "u32" tree)

def nullable (read : Tree → Except Problem α) : Tree → Except Problem (Option α)
  | .null => .ok none
  | tree => (read tree).map some

def closeArray : Ending → Except Problem Unit
  | .closed => .ok ()
  | .endOfText => .error (.malformed .endInArray)
  | .noComma => .error (.malformed .noArrayEnd)
  | .danglingComma => .error (.malformed .trailingComma)

def closeObject : Ending → Except Problem Unit
  | .closed => .ok ()
  | .endOfText => .error (.malformed .endInObject)
  | .noComma => .error (.malformed .noObjectEnd)
  | .danglingComma => .error (.malformed .trailingComma)

/-- The items of an array; without a reader for them there is no level left. -/
def list (read : Option (Tree → Except Problem α)) : Tree → Except Problem (List α)
  | .array items ending =>
    match read with
    | none => .error (.malformed .tooDeep)
    | some read => do
      let values ← items.mapM read
      closeArray ending
      return values
  | tree => .error (misfit "a sequence" tree)

def key : Key → Except Problem String
  | .text token => token.value.mapError .malformed
  | .missing wanted _ => .error (.malformed wanted)

def members (read : Tree → Except Problem α) : List (Key × Tree) → Except Problem (List (String × α))
  | [] => .ok []
  | (k, tree) :: rest => do
    let name ← key k
    let value ← read tree
    let entries ← members read rest
    return (name, value) :: entries

def map (read : Decoder α) : Decoder (List (String × α))
  | 0, .object _ _ => .error (.malformed .tooDeep)
  | level + 1, .object entries ending => do
    let entries ← members (read level) entries
    closeObject ending
    return entries
  | _, tree => .error (misfit "a map" tree)

def putMembers {τ : Type} :
    Fields Tree Problem τ → List (Key × Tree) → Except Problem (Fields Tree Problem τ)
  | fields, [] => .ok fields
  | fields, (k, tree) :: rest =>
    match key k with
    | .error problem => .error problem
    | .ok name =>
      match fields.put (fun name => .mismatch (.duplicateField name)) name tree with
      | some (.error problem) => .error problem
      | some (.ok fields) => putMembers fields rest
      | none =>
        match tree.skip with
        | .error fault => .error (.malformed fault)
        | .ok () => putMembers fields rest

def elements : Nat → String
  | 1 => "1 element"
  | n => toString n ++ " elements"

/-- A record, written as an object or as the array of its fields in their order; without fields there
is no level left. -/
def record (name : String) (fields : Option (Fields Tree Problem τ)) (tree : Tree) : Except Problem τ :=
  match tree, fields with
  | .array _ _, none | .object _ _, none => .error (.malformed .tooDeep)
  | .array items ending, some fields => do
    let short (place : Nat) : Problem :=
      .mismatch (.wrongLength place ("struct " ++ name ++ " with " ++ elements fields.count))
    let (value, left) ← fields.ofList (closeArray ending) short 0 items
    match left, ending with
    | [], .closed => return value
    | [], .endOfText => throw (.malformed .endInArray)
    | [], .danglingComma => throw (.malformed .trailingComma)
    | _, _ => throw (.malformed .trailingText)
  | .object entries ending, some fields =>
    match putMembers fields entries with
    | .error problem => .error problem
    | .ok fields => do
      closeObject ending
      fields.finish fun name => .mismatch (.missingField name)
  | tree, _ => .error (misfit ("struct " ++ name) tree)

inductive Variant (α : Type)
  | plain (value : α)
  | holding (read : Tree → Except Problem α)

def findVariant (variants : List (String × Variant α)) (name : String) : Except Problem (Variant α) :=
  match variants.lookup name with
  | some variant => .ok variant
  | none => .error (.mismatch (.unknownVariant name (variants.map (·.1))))

def choice (variants : List (String × Variant α)) : Decoder α
  | _, .string token => do
    match ← findVariant variants (← token.value.mapError .malformed) with
    | .plain value => return value
    | .holding _ => throw (.mismatch (.wrongType .unitVariant "newtype variant"))
  | 0, .object _ _ => .error (.malformed .tooDeep)
  | _ + 1, .object [] ending =>
    .error (.malformed (if ending = .closed then .noValue else .endInObject))
  | _ + 1, .object ((k, tree) :: rest) ending => do
    let value ← match ← findVariant variants (← key k) with
      | .plain value => (unit tree).map fun _ => value
      | .holding read => read tree
    match rest, ending with
    | [], .closed => return value
    | [], .endOfText => throw (.malformed .endInObject)
    | _, _ => throw (.malformed .noValue)
  | _, .broken fault => .error (.malformed fault)
  | _, _ => .error (.malformed .noValue)

def document (read : Decoder α) (s : String) : Except Problem α := do
  let (tree, rest) := Tree.scan s.toList
  let value ← read levels tree
  match rest.map Tree.skipSpaces with
  | some [] => return value
  | _ => throw (.malformed .trailingText)

end Decode

end WireShadow.Json
