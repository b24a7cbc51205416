import WireShadow.Proofs.Walk

namespace WireShadow

/-- A declaration as it stands in a document, with the declarations around it, the innermost first. -/
structure Site where
  decl : TypeDecl
  outer : List TypeDecl

namespace Site

def namespaceName (s : Site) : String := TypeName.normalize (s.outer.getLastD s.decl).namespaceName

def segments (s : Site) : List String :=
  (if s.namespaceName.isEmpty then [] else [s.namespaceName]) ++ (s.decl :: s.outer).reverse.map (·.name)

def qualifiedName (s : Site) : String := String.intercalate "." s.segments

def chain : List TypeDecl → List Site
  | [] => []
  | decl :: outer => { decl, outer } :: chain outer

theorem namespaceName_nested (decl inner : TypeDecl) (outer : List TypeDecl) :
    namespaceName { decl := inner, outer := decl :: outer } = namespaceName { decl, outer } := by
  rw [namespaceName, List.getLastD_cons]
  rfl

theorem segments_nested (decl inner : TypeDecl) (outer : List TypeDecl) :
    segments { decl := inner, outer := decl :: outer } = segments { decl, outer } ++ [inner.name] := by
  simp [segments, namespaceName_nested]

theorem segments_ne_nil (s : Site) : s.segments ≠ [] := by
  simp [segments]

theorem qualifiedName_nested (decl inner : TypeDecl) (outer : List TypeDecl) :
    qualifiedName { decl := inner, outer := decl :: outer } =
      qualifiedName { decl, outer } ++ "." ++ inner.name := by
  rw [qualifiedName, segments_nested, String.intercalate_append_of_ne_nil (segments_ne_nil _) (by simp),
    String.intercalate_singleton]
  rfl

theorem qualifiedName_outermost (decl : TypeDecl) :
    qualifiedName { decl, outer := [] } = qualify (TypeName.normalize decl.namespaceName) decl.name := by
  rw [qualifiedName, segments, qualify]
  change String.intercalate "." ((if (TypeName.normalize decl.namespaceName).isEmpty then []
    else [TypeName.normalize decl.namespaceName]) ++ [decl.name]) = _
  split
  · exact String.intercalate_singleton
  · simp

theorem qualifiedName_ne_empty {s : Site} (h : s.decl.name ≠ "") : s.qualifiedName ≠ "" := by
  obtain ⟨decl, outer⟩ := s
  cases outer with
  | nil =>
      rw [qualifiedName_outermost, qualify]
      split
      · exact h
      · simp
  | cons first outer =>
      rw [qualifiedName_nested]
      simp

theorem namespaceName_of_mem_chain {s : Site} {outer : List TypeDecl} (h : s ∈ chain outer) (decl : TypeDecl) :
    s.namespaceName = namespaceName { decl, outer } := by
  induction outer generalizing decl with
  | nil => cases h
  | cons first outer ih =>
      rw [namespaceName_nested]
      rcases List.mem_cons.mp h with rfl | h
      · rfl
      · exact ih h first

def label (s : Site) : TypeDecl × String × String := (s.decl, s.qualifiedName, s.namespaceName)

end Site

def TypeNode.label (node : TypeNode) : TypeDecl × String × String :=
  (node.decl, node.qualifiedName, node.namespaceName)

/-- The surroundings in which declarations are placed say what the declarations around them say. -/
def Surroundings.Describe (around : Option Surroundings) : List TypeDecl → Prop
  | [] => around = none
  | decl :: outer => ∃ s, around = some s ∧ s.qualifiedName = Site.qualifiedName { decl, outer } ∧
      s.namespaceName = Site.namespaceName { decl, outer }

namespace Surroundings

variable {around : Option Surroundings} {outer : List TypeDecl}

theorem Describe.nameOf_eq (h : Describe around outer) (decl : TypeDecl) :
    nameOf around decl = Site.qualifiedName { decl, outer } := by
  cases outer with
  | nil =>
      subst h
      exact (Site.qualifiedName_outermost decl).symm
  | cons first outer =>
      obtain ⟨s, rfl, hname, -⟩ := h
      rw [Site.qualifiedName_nested, ← hname]
      rfl

theorem Describe.namespaceOf_eq (h : Describe around outer) (decl : TypeDecl) :
    namespaceOf around decl = Site.namespaceName { decl, outer } := by
  cases outer with
  | nil =>
      subst h
      rfl
  | cons first outer =>
      obtain ⟨s, rfl, -, hnamespace⟩ := h
      rw [Site.namespaceName_nested, ← hnamespace]
      rfl

end Surroundings

namespace DeclTree

mutual

def sites (outer : List TypeDecl) : DeclTree → List Site
  | node decl nested => { decl, outer } :: sitesAll (decl :: outer) nested

def sitesAll (outer : List TypeDecl) : List DeclTree → List Site
  | [] => []
  | tree :: trees => tree.sites outer ++ sitesAll outer trees

end

mutual

theorem map_label_place {around : Option Surroundings} {outer : List TypeDecl}
    (h : Surroundings.Describe around outer) (start : Nat) :
    (tree : DeclTree) → (tree.place start around).map TypeNode.label = (tree.sites outer).map Site.label
  | node decl nested => by
      have hname := h.nameOf_eq decl
      have hnamespace := h.namespaceOf_eq decl
      have hinner : Surroundings.Describe (some ⟨start, Surroundings.nameOf around decl,
          Surroundings.namespaceOf around decl⟩) (decl :: outer) := ⟨_, rfl, hname, hnamespace⟩
      rw [place, sites, List.map_cons, List.map_cons, map_label_placeAll hinner, TypeNode.label, Site.label, hname,
        hnamespace]

theorem map_label_placeAll {around : Option Surroundings} {outer : List TypeDecl}
    (h : Surroundings.Describe around outer) (start : Nat) :
    (trees : List DeclTree) → (placeAll start around trees).map TypeNode.label =
      (sitesAll outer trees).map Site.label
  | [] => rfl
  | tree :: trees => by
      rw [placeAll, sitesAll, List.map_append, List.map_append, map_label_place h, map_label_placeAll h]

end

end DeclTree

namespace Graph

def site (g : Graph) (node : TypeNode) : Site :=
  { decl := node.decl, outer := (g.enclosing node).map (·.decl) }

variable {g : Graph}

theorem site_eq {start : Nat} {around : Option Surroundings} {path : List TypeNode}
    (h : g.LeadsAlong start around path) {node : TypeNode} (hid : node.id = start)
    (hparent : node.parent = around.map (·.parent)) :
    g.site node = { decl := node.decl, outer := (path.map (·.decl)).reverse } := by
  have hpath : g.enclosing node = path.reverse := by
    rw [enclosing, hid, hparent, ← h start (Nat.le_refl start), List.reverse_reverse]
  rw [site, hpath, List.map_reverse]

mutual

theorem map_site_place {start : Nat} {around : Option Surroundings} {path : List TypeNode} :
    (tree : DeclTree) → g.HasAt start (tree.place start around) → g.LeadsAlong start around path →
      (tree.place start around).map g.site = tree.sites (path.map (·.decl)).reverse
  | .node decl nested => by
      intro hat hpath
      rw [DeclTree.place] at hat ⊢
      have hnested := map_site_placeAll nested hat.tail (hpath.inside hat.node?_eq rfl rfl)
      rw [List.map_append, List.reverse_append] at hnested
      rw [List.map_cons, site_eq hpath rfl rfl, hnested, DeclTree.sites]
      rfl

theorem map_site_placeAll {start : Nat} {around : Option Surroundings} {path : List TypeNode} :
    (trees : List DeclTree) → g.HasAt start (DeclTree.placeAll start around trees) →
      g.LeadsAlong start around path →
      (DeclTree.placeAll start around trees).map g.site = DeclTree.sitesAll (path.map (·.decl)).reverse trees
  | [] => by
      intro _ _
      rfl
  | tree :: trees => by
      intro hat hpath
      rw [DeclTree.placeAll] at hat ⊢
      obtain ⟨hfirst, hrest⟩ := hat.append
      rw [DeclTree.length_place] at hrest
      rw [List.map_append, DeclTree.sitesAll, map_site_place tree hfirst hpath,
        map_site_placeAll trees hrest (hpath.mono (Nat.le_add_right start tree.size))]

end

variable {types : List DeclTree}

theorem map_site_layOut (types : List DeclTree) :
    (layOut types).nodes.map (layOut types).site = DeclTree.sitesAll [] types :=
  map_site_placeAll types (hasAt_layOut types) (.outermost _ 0)

theorem label_layOut {node : TypeNode} (h : node ∈ (layOut types).nodes) :
    node.label = ((layOut types).site node).label := by
  have hplaced : (layOut types).nodes.map TypeNode.label = (DeclTree.sitesAll [] types).map Site.label :=
    DeclTree.map_label_placeAll (show Surroundings.Describe none [] from rfl) 0 types
  rw [← map_site_layOut, List.map_map] at hplaced
  exact List.map_inj_left.mp hplaced node h

theorem names_layOut {node : TypeNode} (h : node ∈ (layOut types).nodes) :
    node.qualifiedName = ((layOut types).site node).qualifiedName ∧
      node.namespaceName = ((layOut types).site node).namespaceName := by
  have hlabel := label_layOut h
  simp only [TypeNode.label, Site.label, Prod.mk.injEq] at hlabel
  exact hlabel.2

end Graph

end WireShadow
