import WireShadow.Text.Hidden

namespace WireShadow.Text

/-- A character inside quotes: double quotes, backslashes and what cannot be seen are escaped. -/
def quoteChar (c : Char) : List Char :=
  match c with
  | '\x00' => ['\\', '0']
  | '\t' => ['\\', 't']
  | '\r' => ['\\', 'r']
  | '\n' => ['\\', 'n']
  | c =>
    if c == '\\' || c == '"' then ['\\', c]
    else if isExtender c || isFiller c || !isPrintable c then
      '\\' :: 'u' :: '\x7b' :: Nat.toDigits 16 c.toNat ++ ['\x7d']
    else [c]

def quoted (s : String) : String :=
  String.ofList ('"' :: s.toList.flatMap quoteChar ++ ['"'])

end WireShadow.Text
