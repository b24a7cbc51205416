import WireShadow.Cancellation
import WireShadow.GeneratedUnit

namespace WireShadow

namespace Pass

def checkpoints {α : Type} : List α → Pass Unit
  | [] => pure ()
  | _ :: items => do
    checkpoint
    checkpoints items

end Pass

namespace TypeNode

/-- Analyzes a type that is generated for, with a poll for each property. -/
def analyze (g : Graph) (v : Vocabulary) (node : TypeNode) : Pass (Option RootAnalysis) := do
  if node.decl.isRoot v then
    Pass.checkpoints node.decl.properties
    return some (node.analysis g v)
  else
    return none

end TypeNode

namespace RootAnalysis

def heads (g : Graph) (a : RootAnalysis) : Except Failure (TypeHead × List TypeHead) := do
  let enclosing ← (g.enclosing a.node).reverse.mapM TypeHead.ofNode
  let head ← TypeHead.ofNode a.node
  return (head, enclosing.reverse)

def describe (g : Graph) (a : RootAnalysis) : Pass TypeDescriptor := do
  let (head, enclosing) ← Pass.ofExcept (a.heads g)
  Pass.checkpoints a.candidates
  return { head, enclosing, members := a.members, claimed := a.claimed }

end RootAnalysis

def generateRoot (g : Graph) (settings : Settings) (node : TypeNode) : Pass (Option GeneratedUnit) := do
  match ← node.analyze g settings.vocabulary with
  | none => return none
  | some a =>
    if a.candidates.isEmpty then return none
    let descriptor ← a.describe g
    Pass.checkpoint
    let result ← Pass.ofExcept (descriptor.emit settings)
    return some result

/-- The generated files in the order of the document, and the types that failed. -/
structure Report where
  units : List GeneratedUnit := []
  failures : List (String × Failure) := []
deriving Inhabited

namespace Report

def isSuccess (r : Report) : Bool := r.failures.isEmpty

def wasCancelled (r : Report) : Bool := r.failures.any (·.2.isCancellation)

def ofOutcomes (outcomes : List (TypeNode × Except Failure (Option GeneratedUnit))) : Report :=
  { units := outcomes.filterMap fun
      | (_, .ok result) => result
      | _ => none
    failures := outcomes.filterMap fun
      | (node, .error failure) => some (node.qualifiedName, failure)
      | _ => none }

end Report

namespace Graph

def roots (g : Graph) (v : Vocabulary) : List TypeNode := g.nodes.filter (·.decl.isRoot v)

/-- Generates for every root. The order in which the roots are worked on shows only in the token that
each of them finds. -/
def generateWith (g : Graph) (settings : Settings) (token : TypeNode → Token) : Report :=
  .ofOutcomes <| (g.roots settings.vocabulary).map fun node =>
    (node, (generateRoot g settings node).outcome (token node))

def generate (g : Graph) (settings : Settings) (token : Token) : Report :=
  g.generateWith settings fun _ => token

end Graph

end WireShadow
