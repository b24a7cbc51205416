import WireShadow.Proofs.Placement

namespace WireShadow.Graph

def mapNodes (f : TypeNode → TypeNode) (g : Graph) : Graph :=
  { g with nodes := g.nodes.map f }

variable {g : Graph} (f : TypeNode → TypeNode)

theorem size_mapNodes : (g.mapNodes f).size = g.size := List.length_map f

theorem node?_mapNodes (id : Nat) : (g.mapNodes f).node? id = (g.node? id).map f := List.getElem?_map

theorem lookup_mapNodes (name : String) : (g.mapNodes f).lookup name = (g.lookup name).map f := by
  rw [lookup, lookup, Option.map_bind]
  exact congrArg _ (funext (node?_mapNodes f))

theorem outwards_mapNodes (hparent : ∀ node, (f node).parent = node.parent) (id : Nat) (parent : Option Nat) :
    (g.mapNodes f).outwards id parent = (g.outwards id parent).map f := by
  fun_induction outwards g id parent with
  | case1 => rw [outwards]; rfl
  | case2 id parent hlt hnone =>
      rw [outwards, dif_pos hlt, node?_mapNodes, hnone]
      rfl
  | case3 id parent hlt node hsome ih =>
      rw [outwards, dif_pos hlt, node?_mapNodes, hsome]
      simp only [Option.map_some, hparent, ih, List.map_cons]
  | case4 id parent hge =>
      rw [outwards, dif_neg hge]
      rfl

theorem numbering_map (hname : ∀ node, (f node).qualifiedName = node.qualifiedName) (hid : ∀ node, (f node).id = node.id)
    (nodes : List TypeNode) : numbering (nodes.map f) = numbering nodes := by
  rw [numbering, List.map_map]
  exact List.map_congr_left fun node _ => Prod.ext (hname node) (hid node)

theorem firstDefect_map (hname : ∀ node, (f node).qualifiedName = node.qualifiedName)
    (hdeclared : ∀ node, (f node).decl.name = node.decl.name) (taken : List String) (nodes : List TypeNode) :
    firstDefect taken (nodes.map f) = firstDefect taken nodes := by
  induction nodes generalizing taken with
  | nil => rfl
  | cons node nodes ih => rw [List.map_cons, firstDefect, firstDefect, ih, hname, hdeclared]

theorem ofTypes_eq_mapNodes {types types' : List DeclTree} (hname : ∀ node, (f node).qualifiedName = node.qualifiedName)
    (hid : ∀ node, (f node).id = node.id) (hdeclared : ∀ node, (f node).decl.name = node.decl.name)
    (hplaced : DeclTree.placeAll 0 none types' = (DeclTree.placeAll 0 none types).map f)
    (hstarts : DeclTree.starts 0 types' = DeclTree.starts 0 types) :
    ofTypes types' = (ofTypes types).map (mapNodes f) := by
  have hlaid : layOut types' = (layOut types).mapNodes f := by
    rw [layOut, hplaced, hstarts, numbering_map f hname hid]
    rfl
  have hnodes : (layOut types').nodes = (layOut types).nodes.map f := congrArg nodes hlaid
  rw [ofTypes_eq, ofTypes_eq, hnodes, firstDefect_map f hname hdeclared, hlaid]
  cases firstDefect [] (layOut types).nodes <;> rfl

end WireShadow.Graph
