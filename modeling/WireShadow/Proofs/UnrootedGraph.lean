import WireShadow.Proofs.Unrooted

namespace WireShadow

namespace DeclTree

mutual

def unroot : DeclTree → DeclTree
  | node decl nested => node decl.unroot (unrootAll nested)

def unrootAll : List DeclTree → List DeclTree
  | [] => []
  | tree :: trees => unroot tree :: unrootAll trees

end

mutual

theorem size_unroot : (tree : DeclTree) → tree.unroot.size = tree.size
  | node decl nested => by rw [unroot, size, size, sizeAll_unroot]

theorem sizeAll_unroot : (trees : List DeclTree) → sizeAll (unrootAll trees) = sizeAll trees
  | [] => rfl
  | tree :: trees => by rw [unrootAll, sizeAll, sizeAll, size_unroot, sizeAll_unroot]

end

theorem starts_unroot (start : Nat) (trees : List DeclTree) : starts start (unrootAll trees) = starts start trees := by
  induction trees generalizing start with
  | nil => rfl
  | cons tree trees ih => rw [unrootAll, starts, starts, size_unroot, ih]

end DeclTree

theorem Surroundings.namespaceOf_unroot (around : Option Surroundings) (decl : TypeDecl) :
    namespaceOf around decl.unroot = namespaceOf around decl := by
  cases around with
  | none => exact TypeName.normalize_unroot decl.namespaceName
  | some s => rfl

theorem Surroundings.nameOf_unroot (around : Option Surroundings) (decl : TypeDecl) :
    nameOf around decl.unroot = nameOf around decl := by
  cases around with
  | none => exact congrArg (qualify · decl.name) (TypeName.normalize_unroot decl.namespaceName)
  | some s => rfl

def TypeNode.unroot (node : TypeNode) : TypeNode := { node with decl := node.decl.unroot }

namespace DeclTree

mutual

theorem place_unroot (start : Nat) (around : Option Surroundings) :
    (tree : DeclTree) → tree.unroot.place start around = (tree.place start around).map TypeNode.unroot
  | node decl nested => by
      rw [unroot, place, place, List.map_cons, starts_unroot, placeAll_unroot, Surroundings.nameOf_unroot,
        Surroundings.namespaceOf_unroot]
      rfl

theorem placeAll_unroot (start : Nat) (around : Option Surroundings) :
    (trees : List DeclTree) →
      placeAll start around (unrootAll trees) = (placeAll start around trees).map TypeNode.unroot
  | [] => rfl
  | tree :: trees => by
      rw [unrootAll, placeAll, placeAll, List.map_append, place_unroot, size_unroot, placeAll_unroot]

end

end DeclTree

namespace Graph

def unroot (g : Graph) : Graph := g.mapNodes TypeNode.unroot

variable (g : Graph)

theorem ofTypes_unroot (types : List DeclTree) :
    ofTypes (DeclTree.unrootAll types) = (ofTypes types).map unroot :=
  ofTypes_eq_mapNodes TypeNode.unroot (fun _ => rfl) (fun _ => rfl) (fun _ => rfl)
    (DeclTree.placeAll_unroot 0 none types) (DeclTree.starts_unroot 0 types)

theorem lookup_unroot (name : String) : g.unroot.lookup name = (g.lookup name).map TypeNode.unroot :=
  lookup_mapNodes TypeNode.unroot name

theorem enclosing_unroot (node : TypeNode) :
    g.unroot.enclosing node.unroot = (g.enclosing node).map TypeNode.unroot :=
  outwards_mapNodes TypeNode.unroot (fun _ => rfl) node.id node.parent

end Graph

section Reading

variable (g : Graph) (v : Vocabulary)

theorem TypeRef.classify_unroot (t : TypeRef) : t.unroot.classify g.unroot v.unroot = t.classify g v := by
  have hcovered (name : String) : isCovered g.unroot v.unroot name = isCovered g v name := by
    simp only [isCovered, Graph.lookup_unroot, Option.any_map, TypeNode.unroot, TypeDecl.isRoot_unroot]
    rfl
  simp only [classify, classifyNamed, kind_unroot, isGeneric_unroot, collectionShape_unroot, qualifiedName_unroot,
    hcovered]

namespace Property

theorem verdict_unroot (p : Property) : p.unroot.verdict g.unroot v.unroot = p.verdict g v := by
  have hclass : p.unroot.type.classify g.unroot v.unroot = p.type.classify g v := p.type.classify_unroot g v
  rw [verdict, verdict, marker_unroot, hclass]
  rfl

theorem claimed?_unroot (p : Property) : p.unroot.claimed? g.unroot v.unroot = p.claimed? g v := by
  rw [claimed?, claimed?, verdict_unroot]

end Property

def Candidate.unroot (c : Candidate) : Candidate := { c with property := c.property.unroot }

theorem Property.candidate?_unroot (p : Property) :
    p.unroot.candidate? g.unroot v.unroot = (p.candidate? g v).map Candidate.unroot := by
  rw [candidate?, candidate?, verdict_unroot]
  cases p.verdict g v <;> rfl

theorem filterMap_candidate?_unroot (ps : List Property) :
    (ps.map Property.unroot).filterMap (·.candidate? g.unroot v.unroot) =
      (ps.filterMap (·.candidate? g v)).map Candidate.unroot := by
  simp only [List.filterMap_map, List.map_filterMap, Function.comp_def, Property.candidate?_unroot]

end Reading

end WireShadow
