namespace WireShadow.CSharp

structure Writer where
  text : String := ""
  depth : Nat := 0
deriving DecidableEq, Repr, Inhabited

namespace Writer

def indent (depth : Nat) : String := String.ofList (List.replicate (4 * depth) ' ')

def line (w : Writer) (s : String) : Writer := { w with text := w.text ++ indent w.depth ++ s ++ "\n" }

def blank (w : Writer) : Writer := { w with text := w.text ++ "\n" }

def openBlock (w : Writer) (header : String) : Writer :=
  let w := (w.line header).line "\x7b"
  { w with depth := w.depth + 1 }

/-- Closes the innermost open block. Without one the depth stays at zero. -/
def closeBlock (w : Writer) : Writer := { w with depth := w.depth - 1 }.line "\x7d"

inductive Step
  | line (s : String)
  | blank
  | openBlock (header : String)
  | closeBlock
deriving DecidableEq, Repr

def step (w : Writer) : Step → Writer
  | .line s => w.line s
  | .blank => w.blank
  | .openBlock header => w.openBlock header
  | .closeBlock => w.closeBlock

end Writer

end WireShadow.CSharp
