import WireShadow.CSharp.Writer

namespace WireShadow.CSharp

inductive Code
  | line (s : String)
  | blank
  | block (header : String) (body : List Code)

namespace Code

def indented (depth : Nat) (s : String) : String := String.ofList (List.replicate (4 * depth) ' ') ++ s ++ "\n"

mutual

def text (depth : Nat) : Code → String
  | line s => indented depth s
  | blank => "\n"
  | block header body =>
    indented depth header ++ indented depth "\x7b" ++ textAll (depth + 1) body ++ indented depth "\x7d"

def textAll (depth : Nat) : List Code → String
  | [] => ""
  | code :: codes => code.text depth ++ textAll depth codes

end

mutual

def steps : Code → List Writer.Step
  | line s => [.line s]
  | blank => [.blank]
  | block header body => .openBlock header :: (stepsAll body ++ [.closeBlock])

def stepsAll : List Code → List Writer.Step
  | [] => []
  | code :: codes => code.steps ++ stepsAll codes

end

theorem stepsAll_append (codes codes' : List Code) :
    stepsAll (codes ++ codes') = stepsAll codes ++ stepsAll codes' := by
  induction codes with
  | nil => rfl
  | cons code codes ih => rw [List.cons_append, stepsAll, stepsAll, ih, List.append_assoc]

theorem stepsAll_singleton (code : Code) : stepsAll [code] = code.steps := List.append_nil _

end Code

namespace Writer

open Code

def run (w : Writer) (steps : List Step) : Writer := steps.foldl step w

/-- Every block that is closed on the way is open. -/
def ClosesOpen (w : Writer) : List Step → Prop
  | [] => True
  | s :: steps => (s = .closeBlock → 0 < w.depth) ∧ (w.step s).ClosesOpen steps

theorem run_cons (w : Writer) (s : Step) (steps : List Step) : w.run (s :: steps) = (w.step s).run steps := rfl

theorem run_append (w : Writer) (steps steps' : List Step) : w.run (steps ++ steps') = (w.run steps).run steps' :=
  List.foldl_append

theorem closesOpen_append {w : Writer} {steps steps' : List Step} :
    w.ClosesOpen (steps ++ steps') ↔ w.ClosesOpen steps ∧ (w.run steps).ClosesOpen steps' := by
  induction steps generalizing w with
  | nil => simp [ClosesOpen, run]
  | cons s steps ih => rw [List.cons_append, ClosesOpen, ClosesOpen, ih, and_assoc, run_cons]

theorem line_eq (w : Writer) (s : String) : w.line s = { w with text := w.text ++ indented w.depth s } := by
  rw [line, indent, indented, String.append_assoc, String.append_assoc, String.append_assoc]

theorem openBlock_eq (w : Writer) (header : String) :
    w.openBlock header =
      { text := w.text ++ (indented w.depth header ++ indented w.depth "\x7b"), depth := w.depth + 1 } := by
  simp only [openBlock, line_eq, String.append_assoc]

theorem closeBlock_eq (text : String) (depth : Nat) :
    closeBlock { text, depth := depth + 1 } = { text := text ++ indented depth "\x7d", depth } :=
  line_eq _ _

mutual

theorem run_steps : (code : Code) → (w : Writer) →
    w.run code.steps = { w with text := w.text ++ code.text w.depth }
  | .line s, w => w.line_eq s
  | .blank, _ => rfl
  | .block header body, w => by
      rw [steps, run_cons, run_append, step, openBlock_eq, run_stepsAll]
      change closeBlock _ = _
      rw [closeBlock_eq, Code.text]
      simp only [String.append_assoc]

theorem run_stepsAll : (codes : List Code) → (w : Writer) →
    w.run (stepsAll codes) = { w with text := w.text ++ textAll w.depth codes }
  | [], w => by
      rw [stepsAll, textAll, String.append_empty]
      rfl
  | code :: codes, w => by
      rw [stepsAll, run_append, run_steps, run_stepsAll, textAll, String.append_assoc]

end

mutual

theorem closesOpen_steps : (code : Code) → (w : Writer) → w.ClosesOpen code.steps
  | .line _, _ => ⟨nofun, trivial⟩
  | .blank, _ => ⟨nofun, trivial⟩
  | .block header body, w => by
      refine ⟨nofun, closesOpen_append.mpr ⟨closesOpen_stepsAll body _, fun _ => ?_, trivial⟩⟩
      rw [run_stepsAll]
      exact Nat.succ_pos w.depth

theorem closesOpen_stepsAll : (codes : List Code) → (w : Writer) → w.ClosesOpen (stepsAll codes)
  | [], _ => trivial
  | code :: codes, w => closesOpen_append.mpr ⟨closesOpen_steps code w, closesOpen_stepsAll codes _⟩

end

end Writer

end WireShadow.CSharp
