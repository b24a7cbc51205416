import WireShadow.Data.Mismatch

namespace WireShadow.Json

inductive Fault
  | endInValue | endInArray | endInObject | endInString
  | noValue | noWord | noColon | noArrayEnd | noObjectEnd
  | trailingComma | trailingText | keyNotString
  | badNumber | hugeNumber
  | badEscape | unpairedHigh | loneSurrogate | control
  | tooDeep
deriving DecidableEq, Repr

def Fault.message : Fault → String
  | endInValue => "EOF while parsing a value"
  | endInArray => "EOF while parsing a list"
  | endInObject => "EOF while parsing an object"
  | endInString => "EOF while parsing a string"
  | noValue => "expected value"
  | noWord => "expected ident"
  | noColon => "expected `:`"
  | noArrayEnd => "expected `,` or `]`"
  | noObjectEnd => "expected `,` or `\x7d`"
  | trailingComma => "trailing comma"
  | trailingText => "trailing characters"
  | keyNotString => "key must be a string"
  | badNumber => "invalid number"
  | hugeNumber => "number out of range"
  | badEscape => "invalid escape"
  | unpairedHigh => "unexpected end of hex escape"
  | loneSurrogate => "lone leading surrogate in hex escape"
  | control => "control character (\\u0000-\\u001F) found while parsing a string"
  | tooDeep => "recursion limit exceeded"

inductive Problem
  | malformed (fault : Fault)
  | mismatch (mismatch : Data.Mismatch)
deriving Repr

/-- All places are written from five zeros behind the point up to sixteen digits before it. -/
def layout : Decimal.Layout := ⟨some (-5, 15)⟩

def Problem.message : Problem → String
  | malformed fault => fault.message
  | mismatch m => m.message layout

end WireShadow.Json
