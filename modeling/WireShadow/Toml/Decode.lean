import WireShadow.Data.Fields
import WireShadow.Toml.Problem
import WireShadow.Toml.Reader

namespace WireShadow.Toml

open Data

namespace Value

def typeName : Value → String
  | string _ => "string"
  | integer _ => "integer"
  | real _ => "float"
  | bool _ => "boolean"
  | moment => "datetime"
  | array _ | tables _ => "array"
  | table _ _ => "table"

/-- A moment counts as a map of its parts. -/
def found : Value → Found
  | string s => .string s
  | integer n => .integer n
  | real x => .real x
  | bool b => .bool b
  | moment | table _ _ => .map
  | array _ | tables _ => .sequence

end Value

namespace Decode

variable {α τ : Type}

def misfit (wanted : String) (value : Value) : Problem := .mismatch (.wrongType value.found wanted)

def text : Value → Except Problem String
  | .string s => .ok s
  | value => .error (misfit "a string" value)

def boolean : Value → Except Problem Bool
  | .bool b => .ok b
  | value => .error (misfit "a boolean" value)

def size : Value → Except Problem UInt64
  | .integer n =>
    if 0 ≤ n ∧ n.toNat < UInt64.size then .ok (UInt64.ofNat n.toNat)
    else .error (.mismatch (.wrongValue (.integer n) "usize"))
  | value => .error (misfit "usize" value)

def findVariant (variants : List (String × α)) (name : String) : Except Problem α :=
  match variants.lookup name with
  | some a => .ok a
  | none => .error (.mismatch (.unknownVariant name (variants.map (·.1))))

def empty : Value → Except Problem Unit
  | .array [] | .tables [] | .table _ [] => .ok ()
  | .array _ | .tables _ => .error .notEmptyArray
  | .table _ _ => .error .notEmptyTable
  | value => .error (.notTable value.typeName)

def choice (variants : List (String × α)) : Value → Except Problem α
  | .string name => findVariant variants name
  | .table _ [] => .error .noVariant
  | .table _ [(name, value)] => do
    let a ← findVariant variants name
    empty value
    return a
  | .table _ _ => .error .manyVariants
  | _ => .error .notStringOrTable

def putEntries {τ : Type} : Fields Value Problem τ → Entries → Except Problem (Fields Value Problem τ)
  | fields, [] => .ok fields
  | fields, (name, value) :: entries =>
    match fields.put (fun name => .mismatch (.duplicateField name)) name value with
    | none => putEntries fields entries
    | some (.error problem) => .error problem
    | some (.ok fields) => putEntries fields entries

def ofEntries (fields : Fields Value Problem τ) (entries : Entries) : Except Problem τ :=
  match putEntries fields (entries.mergeSort fun x y => x.1 ≤ y.1) with
  | .error problem => .error problem
  | .ok fields => fields.finish fun name => .mismatch (.missingField name)

def ofItems (fields : Fields Value Problem τ) (items : List Value) : Except Problem τ :=
  (fields.ofList (.ok ()) (fun place => .mismatch (.wrongLength place "")) 0 items).map (·.1)

/-- A record, written as a table or as the array of its fields in their order. A moment has none of the
fields. -/
def record (name : String) (fields : Fields Value Problem τ) : Value → Except Problem τ
  | .table _ entries => ofEntries fields entries
  | .moment => ofEntries fields []
  | .array items | .tables items => ofItems fields items
  | value => .error (misfit ("struct " ++ name) value)

end Decode

end WireShadow.Toml
