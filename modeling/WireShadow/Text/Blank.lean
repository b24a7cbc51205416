namespace WireShadow.Text

/-- Whether a character lies in one of some ascending, disjoint ranges of code points. The search
ends at the first range that starts past the character. -/
def inRanges (c : Char) : List (Nat × Nat) → Bool
  | [] => false
  | (low, high) :: ranges => low ≤ c.toNat && (c.toNat ≤ high || inRanges c ranges)

def blankRanges : List (Nat × Nat) :=
  [(0x9, 0xd), (0x20, 0x20), (0x85, 0x85), (0xa0, 0xa0), (0x1680, 0x1680), (0x2000, 0x200a),
    (0x2028, 0x2029), (0x202f, 0x202f), (0x205f, 0x205f), (0x3000, 0x3000)]

def isBlank (c : Char) : Bool := inRanges c blankRanges

def trimChars (cs : List Char) : List Char :=
  ((cs.dropWhile isBlank).reverse.dropWhile isBlank).reverse

def trim (s : String) : String := String.ofList (trimChars s.toList)

def allBlank (s : String) : Bool := s.toList.all isBlank

end WireShadow.Text
