import WireShadow.Graph

namespace WireShadow.Graph

structure Visit where
  node : TypeNode
  ancestors : List TypeNode
deriving Inhabited

/-- A walk under way: the types still to be visited, each with its depth, and the types on the path to
the last one visited, that one included. -/
structure Walk where
  pending : List (Nat × Nat)
  path : List TypeNode := []
deriving Inhabited

namespace Walk

def start (g : Graph) : Walk := { pending := g.topLevel.map fun id => (id, 0) }

/-- Visits the next pending type, of which the path is kept down to its depth; its nested types are
the next ones to be visited. -/
def next (g : Graph) (w : Walk) : Option (Visit × Walk) :=
  match w.pending with
  | [] => none
  | (id, depth) :: pending =>
    match g.node? id with
    | none => none
    | some node =>
      let ancestors := w.path.take depth
      some ({ node, ancestors },
        { pending := node.children.map (fun child => (child, depth + 1)) ++ pending,
          path := ancestors ++ [node] })

def run (g : Graph) : Nat → Walk → List Visit
  | 0, _ => []
  | steps + 1, w =>
    match w.next g with
    | none => []
    | some (visit, w) => visit :: run g steps w

end Walk

def walk (g : Graph) : List Visit := Walk.run g g.size (Walk.start g)

end WireShadow.Graph
