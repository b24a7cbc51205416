import WireShadow.Proofs.Course
import WireShadow.Proofs.Representation
import WireShadow.Proofs.Revision

namespace WireShadow

/-- The name leads to a declared enum or to a type that is generated for. -/
def Graph.Provides (g : Graph) (v : Vocabulary) (name : String) : Prop :=
  ∃ node, g.lookup name = some node ∧ (node.decl.kind = .enum ∨ node.decl.isRoot v = true)

section Properties

variable {g g' : Graph} {v : Vocabulary}

theorem Graph.any_lookup_iff {name : String} :
    (g.lookup name).any (fun node => node.decl.kind == .enum || node.decl.isRoot v) = true ↔ g.Provides v name := by
  simp [Provides, Option.any_eq_true]

instance (name : String) : Decidable (g.Provides v name) := decidable_of_iff _ Graph.any_lookup_iff

theorem TypeRef.isCovered_congr {name : String} (h : g.Provides v name ↔ g'.Provides v name) :
    isCovered g v name = isCovered g' v name := by
  rw [isCovered, isCovered, Bool.eq_iff_iff.mpr (Graph.any_lookup_iff.trans (h.trans Graph.any_lookup_iff.symm))]

theorem TypeRef.classify_congr {t : TypeRef} (h : t.kind = .class ∨ t.kind = .struct →
    (g.Provides v t.qualifiedName ↔ g'.Provides v t.qualifiedName)) : t.classify g v = t.classify g' v := by
  cases hkind : t.kind with
  | primitive | «enum» | typeParameter | array => simp only [classify, hkind]
  | interface => simp only [classify, classifyNamed, hkind, decide_true, Bool.true_or, if_true]
  | «class» | struct =>
      have hcovered := isCovered_congr (h (by simp [hkind]))
      simp only [classify, classifyNamed, hkind, hcovered]

theorem Property.verdict_congr {p : Property} (h : p.type.classify g v = p.type.classify g' v) :
    p.verdict g v = p.verdict g' v := by
  rw [verdict, verdict, h]

theorem TypeNode.analysis_congr {node node' : TypeNode} (hdecl : node.decl = node'.decl)
    (h : ∀ p ∈ node.decl.properties, p.type.classify g v = p.type.classify g' v) :
    node'.analysis g' v = { node.analysis g v with node := node' } := by
  have hclaimed : node.decl.properties.filterMap (·.claimed? g' v) =
      node.decl.properties.filterMap (·.claimed? g v) :=
    List.filterMap_congr fun p hp => by
      rw [Property.claimed?, Property.claimed?, Property.verdict_congr (h p hp)]
  have hcandidates : node.decl.properties.filterMap (·.candidate? g' v) =
      node.decl.properties.filterMap (·.candidate? g v) :=
    List.filterMap_congr fun p hp => by
      rw [Property.candidate?, Property.candidate?, Property.verdict_congr (h p hp)]
  rw [analysis, analysis, ← hdecl, hclaimed, hcandidates]

end Properties

/-- What generated code shows of a type around others. -/
def TypeDecl.outline (d : TypeDecl) : TypeDecl :=
  { name := d.name, kind := d.kind, isRecord := d.isRecord, typeParameters := d.typeParameters }

theorem TypeHead.ofNode_congr {node node' : TypeNode} (hnamespace : node.namespaceName = node'.namespaceName)
    (h : node.decl.outline = node'.decl.outline) : ofNode node = ofNode node' := by
  simp only [TypeDecl.outline, TypeDecl.mk.injEq] at h
  obtain ⟨hname, -, hkind, hrecord, -, -, hparameters, -⟩ := h
  simp only [ofNode, PartialKind.ofDecl, TypeDecl.isReferenceType, hname, hkind, hrecord, hparameters, hnamespace]

theorem RootAnalysis.heads_congr {g g' : Graph} {a a' : RootAnalysis}
    (hself : TypeHead.ofNode a.node = TypeHead.ofNode a'.node)
    (houter : (g.enclosing a.node).map TypeHead.ofNode = (g'.enclosing a'.node).map TypeHead.ofNode) :
    a.heads g = a'.heads g' := by
  have hmapM (nodes : List TypeNode) : nodes.reverse.mapM TypeHead.ofNode =
      (nodes.map TypeHead.ofNode).reverse.mapM id := by
    rw [← List.map_reverse, List.mapM_map]
    rfl
  rw [heads, heads, hself, hmapM, hmapM, houter]

namespace Graph

theorem namespaceName_of_mem_enclosing {types : List DeclTree} {g : Graph} (hg : ofTypes types = .ok g)
    {node outer : TypeNode} (hnode : node ∈ g.nodes) (houter : outer ∈ g.enclosing node) :
    outer.namespaceName = node.namespaceName := by
  obtain rfl := eq_layOut hg
  have hsite : (layOut types).site outer ∈ Site.chain (((layOut types).enclosing node).map (·.decl)) := by
    rw [enclosing, ← map_site_outwards]
    exact List.mem_map_of_mem houter
  rw [(names_layOut (mem_of_mem_outwards houter)).2, (names_layOut hnode).2,
    Site.namespaceName_of_mem_chain hsite node.decl]
  rfl

/-- Two types have the same declaration, and generated code is put around them alike. -/
structure SameView (g g' : Graph) (node node' : TypeNode) : Prop where
  decl : node.decl = node'.decl
  namespaceName : node.namespaceName = node'.namespaceName
  enclosing : (g.enclosing node).map (·.decl.outline) = (g'.enclosing node').map (·.decl.outline)

variable {types types' : List DeclTree} {g g' : Graph} {node node' : TypeNode}

theorem SameView.map_ofNode (h : SameView g g' node node') (hg : ofTypes types = .ok g)
    (hg' : ofTypes types' = .ok g') (hnode : node ∈ g.nodes) (hnode' : node' ∈ g'.nodes) :
    (g.enclosing node).map TypeHead.ofNode = (g'.enclosing node').map TypeHead.ofNode := by
  let ofOutline (d : TypeDecl) := TypeHead.ofNode { node with decl := d }
  have houtline {g : Graph} {inner : TypeNode} (hnames : ∀ outer ∈ g.enclosing inner,
      outer.namespaceName = node.namespaceName) :
      (g.enclosing inner).map TypeHead.ofNode = ((g.enclosing inner).map (·.decl.outline)).map ofOutline := by
    rw [List.map_map]
    exact List.map_congr_left fun outer houter => TypeHead.ofNode_congr (hnames outer houter) rfl
  rw [houtline fun outer houter => namespaceName_of_mem_enclosing hg hnode houter,
    houtline fun outer houter => (namespaceName_of_mem_enclosing hg' hnode' houter).trans h.namespaceName.symm,
    h.enclosing]

theorem SameView.course_eq (h : SameView g g' node node') (hg : ofTypes types = .ok g)
    (hg' : ofTypes types' = .ok g') (hnode : node ∈ g.nodes) (hnode' : node' ∈ g'.nodes) {settings : Settings}
    (hclass : ∀ p ∈ node.decl.properties,
      p.type.classify g settings.vocabulary = p.type.classify g' settings.vocabulary) :
    node.course g settings = node'.course g' settings := by
  have hself : TypeHead.ofNode node = TypeHead.ofNode node' :=
    TypeHead.ofNode_congr h.namespaceName (by rw [h.decl])
  have hanalysis := TypeNode.analysis_congr h.decl hclass
  have hheads : (node.analysis g settings.vocabulary).heads g = (node'.analysis g' settings.vocabulary).heads g' :=
    RootAnalysis.heads_congr hself (h.map_ofNode hg hg' hnode hnode')
  rw [TypeNode.course, TypeNode.course, ← hheads, hanalysis, ← h.decl]
  rfl

theorem provides_congr_of_lookup {v : Vocabulary} {name : String}
    (h : (g.lookup name).map (·.decl.withProperties []) = (g'.lookup name).map (·.decl.withProperties [])) :
    g.Provides v name ↔ g'.Provides v name := by
  let provides (d : TypeDecl) : Prop := d.kind = .enum ∨ d.isRoot v = true
  have hprovides (g : Graph) : g.Provides v name ↔
      ∃ d, (g.lookup name).map (·.decl.withProperties []) = some d ∧ provides d := by
    simp only [Option.map_eq_some_iff]
    constructor
    · rintro ⟨node, hnode, hkind⟩
      exact ⟨_, ⟨node, hnode, rfl⟩, hkind⟩
    · rintro ⟨_, ⟨node, hnode, rfl⟩, hkind⟩
      exact ⟨node, hnode, hkind⟩
  rw [hprovides, hprovides, h]

/-- What comes of a type depends on its declaration, on its place, and of other types only on which of those that
its properties name are enums or generated for. So other types can come, go and change, and those that are named
can change their properties. -/
theorem outcome_depends_on_view (hg : ofTypes types = .ok g) (hg' : ofTypes types' = .ok g') (hnode : node ∈ g.nodes)
    (hnode' : node' ∈ g'.nodes) (hview : SameView g g' node node') (settings : Settings) :
    ((∀ p ∈ node.decl.properties, p.type.kind = .class ∨ p.type.kind = .struct →
        (g.Provides settings.vocabulary p.type.qualifiedName ↔
          g'.Provides settings.vocabulary p.type.qualifiedName)) →
      ∀ token, (generateRoot g settings node).outcome token = (generateRoot g' settings node').outcome token) ∧
    ((∀ p ∈ node.decl.properties, p.type.kind = .class ∨ p.type.kind = .struct →
        (g.lookup p.type.qualifiedName).map (·.decl.withProperties []) =
          (g'.lookup p.type.qualifiedName).map (·.decl.withProperties [])) →
      ∀ token, (generateRoot g settings node).outcome token = (generateRoot g' settings node').outcome token) := by
  have hmain (h : ∀ p ∈ node.decl.properties, p.type.kind = .class ∨ p.type.kind = .struct →
      (g.Provides settings.vocabulary p.type.qualifiedName ↔ g'.Provides settings.vocabulary p.type.qualifiedName))
      (token : Token) :
      (generateRoot g settings node).outcome token = (generateRoot g' settings node').outcome token := by
    have hcourse := hview.course_eq hg hg' hnode hnode' fun p hp => TypeRef.classify_congr (h p hp)
    rw [TypeNode.generateRoot_eq_run, TypeNode.generateRoot_eq_run, hcourse]
  exact ⟨hmain, fun h => hmain fun p hp hkind => provides_congr_of_lookup (h p hp hkind)⟩

end Graph

namespace Sample

def ownedTypes (ps : List Property) : List DeclTree :=
  [.node { name := "Owner", namespaceName := "Shop", isPartial := true
           attributes := [{ name := "ProtoBuf.ProtoContract" }], properties := ps } [],
    .node { name := "Shop", namespaceName := "Test", isPartial := true } [.node order []]]

def loggedTypes : List DeclTree :=
  .node { name := "Log", namespaceName := "Test" } [] :: ownedTypes [property "Name" number []]

def ownedOrder : TypeNode := { orderNode with id := 2, parent := some 1 }

def loggedOrder : TypeNode := { orderNode with id := 3, parent := some 2 }

theorem sameView_order : Graph.SameView (.layOut (ownedTypes [])) (.layOut loggedTypes) ownedOrder loggedOrder where
  decl := rfl
  namespaceName := rfl
  enclosing := by
    have hshop (types : List DeclTree) (id : Nat) (h : ∃ shop, (Graph.layOut types).node? id = some shop ∧
        shop.parent = none ∧ shop.decl.outline = { name := "Shop" }) :
        ((Graph.layOut types).enclosing { orderNode with id := id + 1, parent := some id }).map (·.decl.outline) =
          [{ name := "Shop" }] := by
      obtain ⟨shop, hnode, hparent, houtline⟩ := h
      simp [Graph.enclosing, Graph.outwards, hnode, hparent, houtline]
    exact (hshop (ownedTypes []) 1 ⟨_, rfl, rfl, rfl⟩).trans (hshop loggedTypes 2 ⟨_, rfl, rfl, rfl⟩).symm

end Sample

namespace Graph

open Sample

theorem outcome_depends_on_view_order :
    ofTypes (ownedTypes []) = .ok (layOut (ownedTypes [])) ∧ ofTypes loggedTypes = .ok (layOut loggedTypes) ∧
      ownedOrder ∈ (layOut (ownedTypes [])).nodes ∧ loggedOrder ∈ (layOut loggedTypes).nodes ∧
      SameView (layOut (ownedTypes [])) (layOut loggedTypes) ownedOrder loggedOrder ∧
      (∀ p ∈ ownedOrder.decl.properties, p.type.kind = .class ∨ p.type.kind = .struct →
        ((layOut (ownedTypes [])).Provides {} p.type.qualifiedName ↔
          (layOut loggedTypes).Provides {} p.type.qualifiedName)) ∧
      (layOut loggedTypes).Provides {} "Shop.Owner" ∧
      (generateRoot (layOut (ownedTypes [])) {} ownedOrder).outcome .never =
        (generateRoot (layOut loggedTypes) {} loggedOrder).outcome .never := by
  have hnode : ownedOrder ∈ (layOut (ownedTypes [])).nodes := .tail _ (.tail _ (.head _))
  have hnode' : loggedOrder ∈ (layOut loggedTypes).nodes := .tail _ (.tail _ (.tail _ (.head _)))
  have hsame : ∀ p ∈ ownedOrder.decl.properties, p.type.kind = .class ∨ p.type.kind = .struct →
      ((layOut (ownedTypes [])).Provides {} p.type.qualifiedName ↔
        (layOut loggedTypes).Provides {} p.type.qualifiedName) := by
    decide +kernel
  have hg : ofTypes (ownedTypes []) = .ok (layOut (ownedTypes [])) := rfl
  have hg' : ofTypes loggedTypes = .ok (layOut loggedTypes) := rfl
  obtain ⟨houtcome, -⟩ := outcome_depends_on_view hg hg' hnode hnode' sameView_order {}
  exact ⟨hg, hg', hnode, hnode', sameView_order, hsame, by decide +kernel, houtcome hsame .never⟩

end Graph

end WireShadow
