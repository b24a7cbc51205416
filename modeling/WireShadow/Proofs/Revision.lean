import WireShadow.Proofs.MemberTags
import WireShadow.Proofs.NodeMap
import WireShadow.Proofs.Placement

namespace WireShadow

def TypeDecl.withProperties (decl : TypeDecl) (ps : List Property) : TypeDecl := { decl with properties := ps }

theorem Surroundings.nameOf_withProperties (around : Option Surroundings) (decl : TypeDecl)
    (ps : List Property) : nameOf around (decl.withProperties ps) = nameOf around decl := by
  cases around <;> rfl

theorem Surroundings.namespaceOf_withProperties (around : Option Surroundings) (decl : TypeDecl)
    (ps : List Property) : namespaceOf around (decl.withProperties ps) = namespaceOf around decl := by
  cases around <;> rfl

namespace TypeNode

def withProperties (node : TypeNode) (ps : List Property) : TypeNode :=
  { node with decl := node.decl.withProperties ps }

def revise (id : Nat) (ps : List Property) (node : TypeNode) : TypeNode :=
  node.withProperties (if node.id = id then ps else node.decl.properties)

theorem revise_self (node : TypeNode) (ps : List Property) :
    node.revise node.id ps = node.withProperties ps := by
  rw [revise, if_pos rfl]

end TypeNode

namespace DeclTree

mutual

def revise (id : Nat) (ps : List Property) (start : Nat) : DeclTree → DeclTree
  | node decl nested =>
    node (decl.withProperties (if start = id then ps else decl.properties)) (reviseAll id ps (start + 1) nested)

def reviseAll (id : Nat) (ps : List Property) (start : Nat) : List DeclTree → List DeclTree
  | [] => []
  | tree :: trees => tree.revise id ps start :: reviseAll id ps (start + tree.size) trees

end

variable (id : Nat) (ps : List Property)

mutual

theorem size_revise (start : Nat) : (tree : DeclTree) → (tree.revise id ps start).size = tree.size
  | node decl nested => by rw [revise, size, size, sizeAll_revise]

theorem sizeAll_revise (start : Nat) :
    (trees : List DeclTree) → sizeAll (reviseAll id ps start trees) = sizeAll trees
  | [] => rfl
  | tree :: trees => by rw [reviseAll, sizeAll, sizeAll, size_revise, sizeAll_revise]

end

theorem starts_revise (first start : Nat) (trees : List DeclTree) :
    starts first (reviseAll id ps start trees) = starts first trees := by
  induction trees generalizing first start with
  | nil => rfl
  | cons tree trees ih => rw [reviseAll, starts, starts, size_revise, ih]

mutual

theorem place_revise (start : Nat) (around : Option Surroundings) :
    (tree : DeclTree) →
      (tree.revise id ps start).place start around = (tree.place start around).map (·.revise id ps)
  | node decl nested => by
      rw [revise, place, place, List.map_cons, starts_revise, placeAll_revise,
        Surroundings.nameOf_withProperties, Surroundings.namespaceOf_withProperties]
      rfl

theorem placeAll_revise (start : Nat) (around : Option Surroundings) :
    (trees : List DeclTree) →
      placeAll start around (reviseAll id ps start trees) =
        (placeAll start around trees).map (·.revise id ps)
  | [] => rfl
  | tree :: trees => by
      rw [reviseAll, placeAll, placeAll, List.map_append, place_revise, size_revise, placeAll_revise]

end

end DeclTree

namespace Graph

def revise (g : Graph) (id : Nat) (ps : List Property) : Graph := g.mapNodes (·.revise id ps)

variable {g : Graph} {v : Vocabulary} {id : Nat} {ps : List Property}

theorem ofTypes_revise {types : List DeclTree} (h : ofTypes types = .ok g) :
    ofTypes (DeclTree.reviseAll id ps 0 types) = .ok (g.revise id ps) := by
  rw [ofTypes_eq_mapNodes (·.revise id ps) (fun _ => rfl) (fun _ => rfl) (fun _ => rfl)
    (DeclTree.placeAll_revise id ps 0 none types) (DeclTree.starts_revise id ps 0 0 types), h]
  rfl

theorem node?_revise (i : Nat) : (g.revise id ps).node? i = (g.node? i).map (·.revise id ps) := node?_mapNodes _ i

theorem lookup_revise (name : String) :
    (g.revise id ps).lookup name = (g.lookup name).map (·.revise id ps) :=
  lookup_mapNodes (·.revise id ps) name

theorem outwards_revise (i : Nat) (parent : Option Nat) :
    (g.revise id ps).outwards i parent = (g.outwards i parent).map (·.revise id ps) :=
  outwards_mapNodes (·.revise id ps) (fun _ => rfl) i parent

theorem enclosing_revise (node : TypeNode) :
    (g.revise id ps).enclosing (node.withProperties ps) = (g.enclosing node).map (·.revise id ps) :=
  outwards_revise node.id node.parent

theorem isCovered_revise (name : String) :
    TypeRef.isCovered (g.revise id ps) v name = TypeRef.isCovered g v name := by
  rw [TypeRef.isCovered, TypeRef.isCovered, lookup_revise, Option.any_map]
  rfl

theorem classify_revise (t : TypeRef) : t.classify (g.revise id ps) v = t.classify g v := by
  simp only [TypeRef.classify, TypeRef.classifyNamed, isCovered_revise]

theorem verdict_revise (p : Property) : p.verdict (g.revise id ps) v = p.verdict g v := by
  simp only [Property.verdict, classify_revise]

theorem shadows_revise (custom : Option String) (p : Property) :
    p.shadows (g.revise id ps) v custom = p.shadows g v custom := by
  rw [Property.shadows, verdict_revise, ← Property.shadows]

end Graph

end WireShadow
