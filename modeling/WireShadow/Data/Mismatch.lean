import WireShadow.Decimal.Layout
import WireShadow.Text.Quoted

namespace WireShadow.Data

/-- What a reader of structured data meets in a place where it wants something else. -/
inductive Found
  | null
  | bool (b : Bool)
  | integer (n : Int)
  | real (x : Float)
  | string (s : String)
  | sequence
  | map
  | unitVariant
deriving Repr

inductive Mismatch
  | wrongType (found : Found) (wanted : String)
  | wrongValue (found : Found) (wanted : String)
  | wrongLength (count : Nat) (wanted : String)
  | missingField (name : String)
  | duplicateField (name : String)
  | unknownVariant (name : String) (known : List String)
deriving Repr

namespace Found

def text (layout : Decimal.Layout) : Found → String
  | null => "null"
  | bool b => "boolean `" ++ toString b ++ "`"
  | integer n => "integer `" ++ toString n ++ "`"
  | real x => "floating point `" ++ layout.text x ++ "`"
  | string s => "string " ++ Text.quoted s
  | sequence => "sequence"
  | map => "map"
  | unitVariant => "unit variant"

end Found

namespace Mismatch

def choices (known : List String) : String :=
  match known with
  | [] => "there are no variants"
  | [x] => "expected `" ++ x ++ "`"
  | [x, y] => "expected `" ++ x ++ "` or `" ++ y ++ "`"
  | known => "expected one of " ++ String.intercalate ", " (known.map fun x => "`" ++ x ++ "`")

def message (layout : Decimal.Layout) : Mismatch → String
  | wrongType found wanted => "invalid type: " ++ found.text layout ++ ", expected " ++ wanted
  | wrongValue found wanted => "invalid value: " ++ found.text layout ++ ", expected " ++ wanted
  | wrongLength count wanted => "invalid length " ++ toString count ++ ", expected " ++ wanted
  | missingField name => "missing field `" ++ name ++ "`"
  | duplicateField name => "duplicate field `" ++ name ++ "`"
  | unknownVariant name known => "unknown variant `" ++ name ++ "`, " ++ choices known

end Mismatch

end WireShadow.Data
