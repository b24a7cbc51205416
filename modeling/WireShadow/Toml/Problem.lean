import WireShadow.Data.Mismatch

namespace WireShadow.Toml

inductive Problem
  | malformed
  | mismatch (mismatch : Data.Mismatch)
  | noVariant
  | manyVariants
  | notStringOrTable
  | notEmptyArray
  | notEmptyTable
  | notTable (found : String)
deriving Repr

def layout : Decimal.Layout := ⟨none⟩

def Problem.message : Problem → String
  | malformed => "the text is not TOML"
  | mismatch m => m.message layout
  | noVariant => "wanted exactly 1 element, found 0 elements"
  | manyVariants => "wanted exactly 1 element, more than 1 element"
  | notStringOrTable => "wanted string or table"
  | notEmptyArray => "expected empty array"
  | notEmptyTable => "expected empty table"
  | notTable found => "expected table, found " ++ found

end WireShadow.Toml
