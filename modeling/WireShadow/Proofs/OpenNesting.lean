import WireShadow.Proofs.Course
import WireShadow.Proofs.MemberTags
import WireShadow.Proofs.Nesting
import WireShadow.Proofs.RuleReports

namespace WireShadow

namespace TypeNode

/-- Of the types around a type, the outermost that is not declared in parts. -/
def IsOutermostClosed (g : Graph) (node outer : TypeNode) : Prop :=
  outer.decl.isPartial = false ∧
    ∃ inner outers, g.enclosing node = inner ++ outer :: outers ∧ ∀ o ∈ outers, o.decl.isPartial = true

def nestingReport? (g : Graph) (v : Vocabulary) (node : TypeNode) : Option Diagnostic :=
  if hasContract v node.decl.attributes then
    ((g.enclosing node).reverse.find? (!·.decl.isPartial)).map fun outer =>
      Rule.nestedInClosed.diagnostic node.decl.location
        ("Type '" ++ node.qualifiedName ++ "' is nested in '" ++ outer.qualifiedName ++
          "', which must be declared partial")
  else none

variable {g : Graph} {v : Vocabulary} {node : TypeNode}

theorem closedAncestor_eq (g : Graph) (v : Vocabulary) (node : TypeNode) :
    node.closedAncestor v (g.enclosing node).reverse = (node.nestingReport? g v).toList := by
  rw [closedAncestor, nestingReport?]
  split
  · cases (g.enclosing node).reverse.find? (!·.decl.isPartial) <;> rfl
  · rfl

theorem find?_eq_some_iff_isOutermostClosed {outer : TypeNode} :
    (g.enclosing node).reverse.find? (!·.decl.isPartial) = some outer ↔ node.IsOutermostClosed g outer := by
  simp only [find?_reverse_eq_some_iff, IsOutermostClosed, Bool.not_eq_true', Bool.not_eq_false']

theorem nestingReport?_eq_some_iff {d : Diagnostic} :
    node.nestingReport? g v = some d ↔ hasContract v node.decl.attributes = true ∧
      ∃ outer, node.IsOutermostClosed g outer ∧
        d = Rule.nestedInClosed.diagnostic node.decl.location
          ("Type '" ++ node.qualifiedName ++ "' is nested in '" ++ outer.qualifiedName ++
            "', which must be declared partial") := by
  rw [nestingReport?]
  split
  · next hcontract =>
      simp only [Option.map_eq_some_iff, find?_eq_some_iff_isOutermostClosed, hcontract, true_and]
      exact exists_congr fun outer => and_congr_right fun _ => eq_comm
  · next hcontract => simp [hcontract]

theorem isSome_nestingReport?_iff :
    (node.nestingReport? g v).isSome ↔
      hasContract v node.decl.attributes = true ∧ ∃ outer ∈ g.enclosing node, outer.decl.isPartial = false := by
  rw [nestingReport?]
  split
  · next hcontract => simp [hcontract]
  · next hcontract => simp [hcontract]

theorem isPartial_of_nestingReport?_eq_none (hroot : node.decl.isRoot v = true) (h : node.nestingReport? g v = none) :
    ∀ e ∈ node :: g.enclosing node, e.decl.isPartial = true := by
  obtain ⟨hpartial, hcontract⟩ := (Bool.and_eq_true _ _).mp hroot
  refine List.forall_mem_cons.mpr ⟨hpartial, fun outer houter => ?_⟩
  by_contra hclosed
  have hreport : (node.nestingReport? g v).isSome :=
    isSome_nestingReport?_iff.mpr ⟨hcontract, outer, houter, by simpa using hclosed⟩
  rw [h] at hreport
  cases hreport

theorem forall₂_chain {token : Token} {d : TypeDescriptor} (h : (node.describe g v).outcome token = .ok (some d)) :
    List.Forall₂ (fun node head => TypeHead.ofNode node = .ok head) (node :: g.enclosing node).reverse d.chain := by
  obtain ⟨heads, hheads, rfl⟩ := exists_heads_of_describe h
  exact List.forall₂_reverse_iff.mpr (RootAnalysis.forall₂_heads hheads)

end TypeNode

namespace Sample

def depot (isPartial : Bool) : List DeclTree :=
  [.node { name := "Depot", namespaceName := "Shop", isPartial }
    [.node { name := "Hall", isPartial } [.node shade [], .node { shade with name := "Tone", isPartial := false } []]]]

end Sample

namespace Graph

open Sample

variable {types : List DeclTree} {g : Graph}

/-- A contract type is reported once if a type around it is not declared in parts, for the outermost such one, and no
other type is. If none is reported, all that a generated file declares again are types that are declared in parts. -/
theorem nesting_partial_unless_reported (hg : ofTypes types = .ok g) (settings : Settings) :
    ((g.diagnostics settings).filter (·.rule == .nestedInClosed)).Perm
      (g.nodes.filterMap (·.nestingReport? g settings.vocabulary)) ∧
    (∀ node ∈ g.nodes,
      ((node.nestingReport? g settings.vocabulary).isSome ↔
        hasContract settings.vocabulary node.decl.attributes = true ∧
          ∃ outer ∈ g.enclosing node, outer.decl.isPartial = false) ∧
      ∀ d, node.nestingReport? g settings.vocabulary = some d ↔
        hasContract settings.vocabulary node.decl.attributes = true ∧
          ∃ outer, node.IsOutermostClosed g outer ∧
            d = Rule.nestedInClosed.diagnostic node.decl.location
              ("Type '" ++ node.qualifiedName ++ "' is nested in '" ++ outer.qualifiedName ++
                "', which must be declared partial")) ∧
    ((∀ d ∈ g.diagnostics settings, d.rule ≠ .nestedInClosed) →
      ∀ token, ∀ file ∈ (g.generateWith settings token).units,
        ∃ node ∈ g.roots settings.vocabulary, ∃ d, node.DescribedAs g settings.vocabulary d ∧
          d.emit settings = .ok file ∧
          List.Forall₂ (fun e head => e.decl.isPartial = true ∧ TypeHead.ofNode e = .ok head)
            (node :: g.enclosing node).reverse d.chain) := by
  have hperm : ((g.diagnostics settings).filter (·.rule == .nestedInClosed)).Perm
      (g.nodes.filterMap (·.nestingReport? g settings.vocabulary)) := by
    rw [List.filterMap_eq_flatMap_toList]
    simp only [← TypeNode.closedAncestor_eq]
    exact perm_share hg .nestedInClosed
  refine ⟨hperm, fun node _ => ⟨TypeNode.isSome_nestingReport?_iff, fun _ => TypeNode.nestingReport?_eq_some_iff⟩, ?_⟩
  intro hunreported token file hfile
  obtain ⟨node, hnode, d, -, hd, hemit, -⟩ := exists_generates_of_mem_units hfile
  obtain ⟨hmem, hroot⟩ := List.mem_filter.mp hnode
  have hnone : node.nestingReport? g settings.vocabulary = none := by
    have hnil : (g.diagnostics settings).filter (·.rule == .nestedInClosed) = [] :=
      List.filter_eq_nil_iff.mpr fun d hd => by simpa using hunreported d hd
    rw [hnil, List.nil_perm, List.filterMap_eq_nil_iff] at hperm
    exact hperm node hmem
  refine ⟨node, hnode, d, hd, hemit, (List.forall₂_and_left _ _).mpr ⟨fun e he => ?_, TypeNode.forall₂_chain hd⟩⟩
  exact TypeNode.isPartial_of_nestingReport?_eq_none hroot hnone e (List.mem_reverse.mp he)

theorem nesting_partial_unless_reported_depot :
    ofTypes (depot false) = .ok (layOut (depot false)) ∧
      (((layOut (depot false)).diagnostics {}).filter (·.rule == .nestedInClosed)).Perm
        ((layOut (depot false)).nodes.filterMap (·.nestingReport? (layOut (depot false)) {})) ∧
      ((layOut (depot false)).nodes.filterMap (·.nestingReport? (layOut (depot false)) {})).map (·.message) =
        ["Type 'Shop.Depot.Hall.Shade' is nested in 'Shop.Depot', which must be declared partial",
          "Type 'Shop.Depot.Hall.Tone' is nested in 'Shop.Depot', which must be declared partial"] ∧
      ofTypes (depot true) = .ok (layOut (depot true)) ∧
      ((layOut (depot true)).generateWith {} fun _ => .never).units.map (·.outputKey) =
        ["ProtoShop.Depot.Hall.Shade.g.cs"] ∧
      ∀ file ∈ ((layOut (depot true)).generateWith {} fun _ => .never).units,
        ∃ node ∈ (layOut (depot true)).roots {}, ∃ d, node.DescribedAs (layOut (depot true)) {} d ∧
          d.emit {} = .ok file ∧
          List.Forall₂ (fun e head => e.decl.isPartial = true ∧ TypeHead.ofNode e = .ok head)
            (node :: (layOut (depot true)).enclosing node).reverse d.chain := by
  have hclosed : ofTypes (depot false) = .ok (layOut (depot false)) := rfl
  have hopen : ofTypes (depot true) = .ok (layOut (depot true)) := rfl
  obtain ⟨hperm, -, -⟩ := nesting_partial_unless_reported hclosed {}
  obtain ⟨-, -, hunits⟩ := nesting_partial_unless_reported hopen {}
  have hnone : ∀ d ∈ (layOut (depot true)).diagnostics {}, d.rule ≠ .nestedInClosed := by decide +kernel
  exact ⟨hclosed, hperm, by decide +kernel, hopen, by decide +kernel, hunits hnone fun _ => .never⟩

end Graph

end WireShadow
