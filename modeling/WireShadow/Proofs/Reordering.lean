import WireShadow.Proofs.Listing
import WireShadow.Proofs.Lists
import WireShadow.Proofs.Visibility

namespace WireShadow

/-- The same declared types, in another order wherever several stand side by side. -/
inductive Reordered : List DeclTree → List DeclTree → Prop
  | nil : Reordered [] []
  | cons (decl : TypeDecl) {nested nested' trees trees' : List DeclTree} : Reordered nested nested' →
      Reordered trees trees' → Reordered (.node decl nested :: trees) (.node decl nested' :: trees')
  | swap (tree tree' : DeclTree) (trees : List DeclTree) :
      Reordered (tree :: tree' :: trees) (tree' :: tree :: trees)
  | trans {trees trees' trees'' : List DeclTree} : Reordered trees trees' → Reordered trees' trees'' →
      Reordered trees trees''

theorem Reordered.sites_perm {trees trees' : List DeclTree} (h : Reordered trees trees') (outer : List TypeDecl) :
    (DeclTree.sitesAll outer trees).Perm (DeclTree.sitesAll outer trees') := by
  induction h generalizing outer with
  | nil => exact .nil
  | cons decl _ _ ihnested ihtrees =>
      rw [DeclTree.sitesAll, DeclTree.sitesAll, DeclTree.sites, DeclTree.sites]
      exact ((ihnested (decl :: outer)).cons _).append (ihtrees outer)
  | swap tree tree' trees =>
      simp only [DeclTree.sitesAll, ← List.append_assoc]
      exact List.perm_append_comm.append_right _
  | trans _ _ ih ih' => exact (ih outer).trans (ih' outer)

theorem Sound.of_perm {sites sites' : List Site} (h : Sound sites) (hsites : sites.Perm sites') : Sound sites' :=
  ⟨fun s hs => h.1 s (hsites.symm.subset hs), (hsites.map _).nodup_iff.mp h.2⟩

/-- Two graphs have as many types, and lead from each name to the same declaration. -/
structure Graph.SameNames (g g' : Graph) : Prop where
  size : g.size = g'.size
  lookup : ∀ name, (g.lookup name).map (·.decl) = (g'.lookup name).map (·.decl)

structure Graph.SamePlace (g g' : Graph) (node node' : TypeNode) : Prop where
  label : node.label = node'.label
  enclosing : (g.enclosing node).map TypeNode.label = (g'.enclosing node').map TypeNode.label

section Agreement

variable {g g' : Graph} {v : Vocabulary} {settings : Settings} {node node' : TypeNode}

namespace Graph.SameNames

theorem classify_eq (h : g.SameNames g') (v : Vocabulary) (t : TypeRef) : t.classify g v = t.classify g' v := by
  refine TypeRef.classify_congr fun _ => Graph.provides_congr_of_lookup ?_
  have hdecl := congrArg (Option.map (·.withProperties [])) (h.lookup t.qualifiedName)
  rwa [Option.map_map, Option.map_map] at hdecl

theorem verdict_eq (h : g.SameNames g') (v : Vocabulary) (p : Property) : p.verdict g v = p.verdict g' v :=
  Property.verdict_congr (h.classify_eq v p.type)

theorem propertyDiagnostics_eq (h : g.SameNames g') (v : Vocabulary) (p : Property) :
    TypeNode.propertyDiagnostics g v p = TypeNode.propertyDiagnostics g' v p := by
  rw [TypeNode.propertyDiagnostics, TypeNode.propertyDiagnostics, h.classify_eq]

theorem brokenLink_eq (h : g.SameNames g') (v : Vocabulary) (steps : Nat) (visited : List String) (derived : String)
    (base : Option String) :
    TypeNode.brokenLink g v steps visited derived base = TypeNode.brokenLink g' v steps visited derived base := by
  induction steps generalizing visited derived base with
  | zero => rfl
  | succ steps ih =>
      cases base with
      | none => rfl
      | some base =>
          have hbase := h.lookup base
          rw [TypeNode.brokenLink, TypeNode.brokenLink]
          cases hnode : g.lookup base <;> cases hnode' : g'.lookup base <;>
            simp only [hnode, hnode', Option.map_none, Option.map_some, Option.some.injEq, reduceCtorEq] at hbase
          · rfl
          · simp only [hbase, ih]

theorem memberNames_eq (h : g.SameNames g') (settings : Settings) (hdecl : node.decl = node'.decl) :
    node.memberNames g settings = node'.memberNames g' settings := by
  have hcandidate (p : Property) :
      p.candidate? g settings.vocabulary = p.candidate? g' settings.vocabulary := by
    rw [Property.candidate?, Property.candidate?, h.verdict_eq]
  rw [TypeNode.memberNames, TypeNode.memberNames, hdecl, List.filterMap_congr fun p _ => hcandidate p]

end Graph.SameNames

theorem TypeNode.closedAncestor_congr {ancestors ancestors' : List TypeNode} (hlabel : node.label = node'.label)
    (h : ancestors.map label = ancestors'.map label) :
    node.closedAncestor v ancestors = node'.closedAncestor v ancestors' := by
  have hclosed : (ancestors.find? (!·.decl.isPartial)).map label =
      (ancestors'.find? (!·.decl.isPartial)).map label := by
    have hfind := congrArg (List.find? fun l : TypeDecl × String × String => !l.1.isPartial) h
    rwa [List.find?_map, List.find?_map] at hfind
  simp only [label, Prod.mk.injEq] at hlabel
  obtain ⟨hdecl, hname, -⟩ := hlabel
  rw [closedAncestor, closedAncestor, hdecl, hname]
  cases hfirst : ancestors.find? (!·.decl.isPartial) <;> cases hfirst' : ancestors'.find? (!·.decl.isPartial) <;>
    simp only [hfirst, hfirst', Option.map_none, Option.map_some, Option.some.injEq, reduceCtorEq, label,
      Prod.mk.injEq] at hclosed
  · rfl
  · simp only [hclosed]

theorem Graph.SamePlace.diagnostics_eq (h : SamePlace g g' node node') (hnames : g.SameNames g')
    (settings : Settings) :
    (g.visit node).diagnostics g settings = (g'.visit node').diagnostics g' settings := by
  have hclosed : node.closedAncestor settings.vocabulary (g.enclosing node).reverse =
      node'.closedAncestor settings.vocabulary (g'.enclosing node').reverse :=
    TypeNode.closedAncestor_congr h.label (by rw [List.map_reverse, List.map_reverse, h.enclosing])
  obtain ⟨hdecl, hname, -⟩ : node.decl = node'.decl ∧ node.qualifiedName = node'.qualifiedName ∧
      node.namespaceName = node'.namespaceName := by
    simpa only [TypeNode.label, Prod.mk.injEq] using h.label
  have htags : node.duplicateTags settings.vocabulary = node'.duplicateTags settings.vocabulary := by
    rw [TypeNode.duplicateTags, TypeNode.duplicateTags, hdecl]
  have hoptions : node.badOptions settings.vocabulary = node'.badOptions settings.vocabulary := by
    rw [TypeNode.badOptions, TypeNode.badOptions, hdecl, hname]
  have hproperties : TypeNode.propertyDiagnostics g settings.vocabulary =
      TypeNode.propertyDiagnostics g' settings.vocabulary := funext (hnames.propertyDiagnostics_eq _)
  have hchain : node.baseChain g settings.vocabulary = node'.baseChain g' settings.vocabulary := by
    rw [TypeNode.baseChain, TypeNode.baseChain, hnames.brokenLink_eq, hnames.size, hdecl, hname]
  have hmembers : node.duplicateMembers g settings = node'.duplicateMembers g' settings := by
    rw [TypeNode.duplicateMembers, TypeNode.duplicateMembers, hnames.memberNames_eq settings hdecl, hdecl]
  have hroot : node.decl.isRoot settings.vocabulary = true ↔ node'.decl.isRoot settings.vocabulary = true := by
    rw [hdecl]
  have hrootReports : node.decl.properties.flatMap (TypeNode.propertyDiagnostics g settings.vocabulary) ++
      node.baseChain g settings.vocabulary ++ node.duplicateMembers g settings =
      node'.decl.properties.flatMap (TypeNode.propertyDiagnostics g' settings.vocabulary) ++
        node'.baseChain g' settings.vocabulary ++ node'.duplicateMembers g' settings := by
    rw [hproperties, hchain, hmembers, hdecl]
  exact congrArg₂ (· ++ ·) (congrArg₂ (· ++ ·) (congrArg₂ (· ++ ·) hclosed htags) hoptions)
    (if_congr hroot hrootReports rfl)

theorem Graph.SamePlace.sameView (h : SamePlace g g' node node') : SameView g g' node node' where
  decl := congrArg (·.1) h.label
  namespaceName := congrArg (·.2.2) h.label
  enclosing := by
    have houtline := congrArg (List.map (·.1.outline)) h.enclosing
    rwa [List.map_map, List.map_map] at houtline

end Agreement

namespace Graph

theorem map_site_lookup (types : List DeclTree) (name : String) :
    ((layOut types).lookup name).map (layOut types).site =
      (DeclTree.sitesAll [] types).find? (·.qualifiedName == TypeName.normalize name) := by
  rw [← map_site_layOut, List.find?_map, lookup_layOut]
  refine congrArg _ (List.find?_congr fun node hnode => ?_)
  rw [Function.comp_apply, (names_layOut hnode).1]

section Reordering

variable {types types' : List DeclTree} {settings : Settings}
  (hsites : (DeclTree.sitesAll [] types).Perm (DeclTree.sitesAll [] types'))
include hsites

theorem sameNames_of_perm (hsound : Sound (DeclTree.sitesAll [] types)) :
    (layOut types).SameNames (layOut types') where
  size := by
    have hlength := hsites.length_eq
    rwa [← map_site_layOut, ← map_site_layOut, List.length_map, List.length_map] at hlength
  lookup := fun name => by
    have hfind := find?_eq_of_perm hsites hsound.2 (TypeName.normalize name)
    rw [← map_site_lookup, ← map_site_lookup] at hfind
    have hdecl := congrArg (Option.map (·.decl)) hfind
    rwa [Option.map_map, Option.map_map] at hdecl

omit hsites in
theorem samePlace_of_site {node node' : TypeNode} (hnode : node ∈ (layOut types).nodes)
    (hnode' : node' ∈ (layOut types').nodes) (h : (layOut types).site node = (layOut types').site node') :
    SamePlace (layOut types) (layOut types') node node' where
  label := by rw [label_layOut hnode, label_layOut hnode', h]
  enclosing := by rw [map_label_enclosing, map_label_enclosing, h]

theorem flatMap_nodes_perm {β : Type} {out out' : TypeNode → List β}
    (hout : ∀ node ∈ (layOut types).nodes, ∀ node' ∈ (layOut types').nodes,
      SamePlace (layOut types) (layOut types') node node' → out node = out' node') :
    ((layOut types).nodes.flatMap out).Perm ((layOut types').nodes.flatMap out') := by
  have hperm : ((layOut types).nodes.map (layOut types).site).Perm
      ((layOut types').nodes.map (layOut types').site) := by
    rwa [map_site_layOut, map_site_layOut]
  exact flatMap_perm_of_map_perm hperm fun node hnode node' hnode' hsite =>
    hout node hnode node' hnode' (samePlace_of_site hnode hnode' hsite)

theorem outcomes_perm (hsound : Sound (DeclTree.sitesAll [] types)) {β : Type}
    {out : TypeNode × Except Failure (Option GeneratedUnit) → Option β}
    (hout : ∀ node node' outcome, node.qualifiedName = node'.qualifiedName →
      out (node, outcome) = out (node', outcome)) (token : Token) :
    ((((layOut types).roots settings.vocabulary).map fun node =>
        (node, (generateRoot (layOut types) settings node).outcome token)).filterMap out).Perm
      ((((layOut types').roots settings.vocabulary).map fun node =>
        (node, (generateRoot (layOut types') settings node).outcome token)).filterMap out) := by
  have hsound' : Sound (DeclTree.sitesAll [] types') := hsound.of_perm hsites
  have hnames := sameNames_of_perm hsites hsound
  simp only [roots, List.filterMap_map, List.filterMap_filter]
  rw [List.filterMap_eq_flatMap_toList, List.filterMap_eq_flatMap_toList]
  refine flatMap_nodes_perm hsites fun node hnode node' hnode' hplace => ?_
  have hcourse : node.course (layOut types) settings = node'.course (layOut types') settings :=
    hplace.sameView.course_eq (ofTypes_layOut hsound) (ofTypes_layOut hsound') hnode hnode'
      fun p _ => hnames.classify_eq settings.vocabulary p.type
  have hdecl : node.decl = node'.decl := hplace.sameView.decl
  simp only [Function.comp_apply, TypeNode.generateRoot_eq_run, hcourse, hdecl,
    hout node node' _ (congrArg (·.2.1) hplace.label)]

theorem diagnostics_perm (hsound : Sound (DeclTree.sitesAll [] types)) :
    ((layOut types).diagnostics settings).Perm ((layOut types').diagnostics settings) := by
  have hnames := sameNames_of_perm hsites hsound
  have hreports := flatMap_nodes_perm hsites fun node _ node' _ hplace => hplace.diagnostics_eq hnames settings
  rw [diagnostics, diagnostics, walk_eq (ofTypes_layOut hsound), walk_eq (ofTypes_layOut (hsound.of_perm hsites)),
    List.flatMap_map, List.flatMap_map]
  exact (Diagnostic.sort_perm _).trans (hreports.trans (Diagnostic.sort_perm _).symm)

end Reordering

/-- Types in another order are accepted or refused alike, and the same is generated and reported for them, in another
order. What is reported is ordered by place and rule, so only reports of one rule at one place can change places. -/
theorem reordering_only_orders_results {types types' : List DeclTree} (h : Reordered types types')
    (settings : Settings) :
    ((∃ g, ofTypes types = .ok g) ↔ ∃ g', ofTypes types' = .ok g') ∧
      ∀ g g', ofTypes types = .ok g → ofTypes types' = .ok g' →
        (g.generate settings .never).units.Perm (g'.generate settings .never).units ∧
        (g.generate settings .never).failures.Perm (g'.generate settings .never).failures ∧
        (g.diagnostics settings).Perm (g'.diagnostics settings) ∧
        (g.diagnostics settings).Pairwise (fun d e => d.le e = true) ∧
        (g'.diagnostics settings).Pairwise (fun d e => d.le e = true) ∧
        (g.diagnostics settings).map Diagnostic.place = (g'.diagnostics settings).map Diagnostic.place := by
  have hsites := h.sites_perm []
  refine ⟨?_, ?_⟩
  · rw [exists_ofTypes_iff, exists_ofTypes_iff]
    exact ⟨fun hsound => hsound.of_perm hsites, fun hsound => hsound.of_perm hsites.symm⟩
  intro g g' hg hg'
  have hsound : Sound (DeclTree.sitesAll [] types) := exists_ofTypes_iff.mp ⟨g, hg⟩
  obtain rfl := eq_layOut hg
  obtain rfl := eq_layOut hg'
  have hperm : ((layOut types).diagnostics settings).Perm ((layOut types').diagnostics settings) :=
    diagnostics_perm hsites hsound
  exact ⟨outcomes_perm hsites hsound (fun _ _ outcome _ => by cases outcome <;> rfl) .never,
    outcomes_perm hsites hsound (fun node node' outcome hname => by cases outcome <;> simp [hname]) .never,
    hperm, Diagnostic.pairwise_sort _, Diagnostic.pairwise_sort _,
    Diagnostic.map_place_eq_of_perm hperm (Diagnostic.pairwise_sort _) (Diagnostic.pairwise_sort _)⟩

theorem reordering_only_orders_results_reverse :
    Reordered Sample.types Sample.types.reverse ∧ ofTypes Sample.types = .ok (layOut Sample.types) ∧
      ofTypes Sample.types.reverse = .ok (layOut Sample.types.reverse) ∧
      ((layOut Sample.types).generate {} .never).units.Perm
        ((layOut Sample.types.reverse).generate {} .never).units ∧
      ((layOut Sample.types).generate {} .never).failures.Perm
        ((layOut Sample.types.reverse).generate {} .never).failures ∧
      ((layOut Sample.types).diagnostics {}).map Diagnostic.place =
        ((layOut Sample.types.reverse).diagnostics {}).map Diagnostic.place := by
  have h : Reordered Sample.types Sample.types.reverse := .swap _ _ []
  obtain ⟨haccepted, hresults⟩ := reordering_only_orders_results h {}
  obtain ⟨g', hg'⟩ := haccepted.mp ⟨_, Sample.ofTypes_types⟩
  obtain rfl := eq_layOut hg'
  obtain ⟨hunits, hfailures, -, -, -, hplaces⟩ := hresults _ _ Sample.ofTypes_types hg'
  exact ⟨h, Sample.ofTypes_types, hg', hunits, hfailures, hplaces⟩

end Graph

end WireShadow
