import Mathlib.Data.List.Forall2
import WireShadow.Proofs.ElementTypes
import WireShadow.Proofs.Placement
import WireShadow.Proofs.UnitText

namespace WireShadow

def Verdict.isGenerate : Verdict → Bool
  | generate _ _ => true
  | _ => false

namespace TypeNode

variable {g : Graph} {v : Vocabulary} {settings : Settings} {node : TypeNode}

def hasShadows (g : Graph) (v : Vocabulary) (node : TypeNode) : Bool :=
  node.decl.properties.any fun p => (p.verdict g v).isGenerate

theorem isSome_candidate? (g : Graph) (v : Vocabulary) (p : Property) :
    (p.candidate? g v).isSome = (p.verdict g v).isGenerate := by
  rw [Property.candidate?]
  cases p.verdict g v <;> rfl

theorem isEmpty_candidates (g : Graph) (v : Vocabulary) (node : TypeNode) :
    (node.analysis g v).candidates.isEmpty = !node.hasShadows g v := by
  change (node.decl.properties.filterMap (·.candidate? g v)).isEmpty = !node.decl.properties.any _
  induction node.decl.properties with
  | nil => rfl
  | cons p ps ih =>
      rw [List.any_cons, ← isSome_candidate?, List.filterMap_cons]
      cases p.candidate? g v with
      | none => exact ih
      | some c => rfl

theorem generateRoot_of_not_hasShadows (hroot : node.decl.isRoot settings.vocabulary)
    (h : node.hasShadows g settings.vocabulary = false) :
    (generateRoot g settings node).outcome .never = .ok none := by
  have hrun : generateRoot g settings node .never = (.ok none, .never) := by
    refine (Pass.bind_ok (analyze_never hroot)).trans ?_
    simp only [isEmpty_candidates, h, Bool.not_false, if_true]
    rfl
  exact congrArg Prod.fst hrun

theorem generateRoot_of_outermostEnum (hroot : node.decl.isRoot settings.vocabulary)
    (h : node.hasShadows g settings.vocabulary = true) {outer : TypeNode}
    (houter : g.outermostEnum node = some outer) :
    (generateRoot g settings node).outcome .never =
      .error (.invalidGraph (.partialEnum outer.decl.name)) := by
  have hheads := RootAnalysis.heads_error (a := node.analysis g settings.vocabulary) houter
  have hrun : generateRoot g settings node .never =
      (.error (.invalidGraph (.partialEnum outer.decl.name)), .never) := by
    refine (Pass.bind_ok (analyze_never hroot)).trans ?_
    simp only [isEmpty_candidates, h, Bool.not_true, Bool.false_eq_true, if_false]
    exact Pass.bind_error (RootAnalysis.describe_never_error hheads)
  exact congrArg Prod.fst hrun

/-- The generated file of a type has the key of what the type is described as, and holds this written out with the
two lines of each member. -/
def Generates (g : Graph) (settings : Settings) (node : TypeNode) (result : GeneratedUnit) : Prop :=
  ∃ d texts, node.DescribedAs g settings.vocabulary d ∧ d.emit settings = .ok result ∧
    List.Forall₂ (fun m text => m.emit settings = .ok text) d.members texts ∧
    result.outputKey = d.outputKey settings ∧ result.text = CSharp.Code.textAll 0 (d.code settings texts)

theorem DescribedAs.generates {d : TypeDescriptor} (h : node.DescribedAs g settings.vocabulary d)
    {result : GeneratedUnit} (hresult : d.emit settings = .ok result) : node.Generates g settings result := by
  obtain ⟨texts, htexts, rfl⟩ := (d.emit_eq_ok_iff settings).mp hresult
  exact ⟨d, texts, h, hresult, htexts, rfl, rfl⟩

theorem exists_generateRoot (hroot : node.decl.isRoot settings.vocabulary)
    (h : node.hasShadows g settings.vocabulary = true) (houter : g.outermostEnum node = none) :
    ∃ result, node.Generates g settings result ∧
      (generateRoot g settings node).outcome .never = .ok (some result) := by
  let a := node.analysis g settings.vocabulary
  obtain ⟨heads, hheads⟩ := RootAnalysis.exists_heads (a := a) houter
  obtain ⟨result, hresult⟩ :=
    TypeDescriptor.exists_emit (d := a.descriptor heads) (fun _ hm => not_lacksElement_of_mem_members hm) settings
  refine ⟨result, (describedAs_descriptor hroot hheads).generates hresult, ?_⟩
  have hrun : generateRoot g settings node .never = (.ok (some result), .never) := by
    refine (Pass.bind_ok (analyze_never hroot)).trans ?_
    simp only [isEmpty_candidates, h, Bool.not_true, Bool.false_eq_true, if_false]
    refine (Pass.bind_ok (RootAnalysis.describe_never_ok hheads)).trans ?_
    refine (Pass.bind_ok rfl).trans ?_
    exact Pass.bind_ok (by rw [hresult]; rfl)
  exact congrArg Prod.fst hrun

end TypeNode

def Graph.enumFailure (g : Graph) (node : TypeNode) : Option (String × Failure) :=
  (g.outermostEnum node).map fun outer =>
    (node.qualifiedName, .invalidGraph (.partialEnum outer.decl.name))

namespace Report

/-- Every one of some types has either its failure or its generated file in the report, in their order,
and there is nothing else. -/
structure Covers (g : Graph) (settings : Settings) (nodes : List TypeNode) (r : Report) : Prop where
  units : List.Forall₂ (TypeNode.Generates g settings)
    (nodes.filter fun node => (g.outermostEnum node).isNone) r.units
  failures : r.failures = nodes.filterMap g.enumFailure

variable {g : Graph} {settings : Settings} {node : TypeNode} {nodes : List TypeNode} {r : Report}

theorem Covers.fail (h : Covers g settings nodes r) {outer : TypeNode}
    (houter : g.outermostEnum node = some outer) :
    Covers g settings (node :: nodes) { r with
      failures := (node.qualifiedName, .invalidGraph (.partialEnum outer.decl.name)) :: r.failures } where
  units := by
    rw [List.filter_cons_of_neg (by simp [houter])]
    exact h.units
  failures := by
    rw [List.filterMap_cons_some (by rw [Graph.enumFailure, houter]; rfl), ← h.failures]

theorem Covers.unit (h : Covers g settings nodes r) (houter : g.outermostEnum node = none)
    {result : GeneratedUnit} (hresult : node.Generates g settings result) :
    Covers g settings (node :: nodes) { r with units := result :: r.units } where
  units := by
    rw [List.filter_cons_of_pos (by simp [houter])]
    exact .cons hresult h.units
  failures := by
    rw [List.filterMap_cons_none (by rw [Graph.enumFailure, houter]; rfl)]
    exact h.failures

theorem Covers.ne_unsupportedShape (h : Covers g settings nodes r) :
    ∀ failure ∈ r.failures, ∀ property shape, failure.2 ≠ .unsupportedShape property shape := by
  intro failure hfailure property shape
  rw [h.failures] at hfailure
  obtain ⟨node, -, hnode⟩ := List.mem_filterMap.mp hfailure
  obtain ⟨outer, -, rfl⟩ := Option.map_eq_some_iff.mp hnode
  simp

theorem covers_ofOutcomes (hroots : ∀ node ∈ nodes, node.decl.isRoot settings.vocabulary) :
    Covers g settings (nodes.filter (·.hasShadows g settings.vocabulary))
      (ofOutcomes (nodes.map fun node => (node, (generateRoot g settings node).outcome .never))) := by
  induction nodes with
  | nil => exact ⟨.nil, rfl⟩
  | cons node nodes ih =>
      obtain ⟨hroot, hroots⟩ := List.forall_mem_cons.mp hroots
      rw [List.map_cons]
      cases hshadows : node.hasShadows g settings.vocabulary with
      | false =>
          rw [List.filter_cons_of_neg (by simp [hshadows]), TypeNode.generateRoot_of_not_hasShadows hroot hshadows]
          exact ih hroots
      | true =>
          rw [List.filter_cons_of_pos hshadows]
          cases houter : g.outermostEnum node with
          | some outer =>
              rw [TypeNode.generateRoot_of_outermostEnum hroot hshadows houter]
              exact (ih hroots).fail houter
          | none =>
              obtain ⟨result, hresult, hrun⟩ := TypeNode.exists_generateRoot hroot hshadows houter
              rw [hrun]
              exact (ih hroots).unit houter hresult

end Report

namespace Graph

def shadowed (g : Graph) (v : Vocabulary) : List TypeNode := (g.roots v).filter (·.hasShadows g v)

/-- When nobody cancels the work, a type with something to shadow fails for an enum around it or is
generated for, and that is all that happens. -/
theorem covers_generate {types : List DeclTree} {g : Graph} (hg : ofTypes types = .ok g)
    (settings : Settings) :
    Report.Covers g settings (g.shadowed settings.vocabulary) (g.generate settings .never) ∧
      ((g.shadowed settings.vocabulary).map (·.qualifiedName)).Nodup ∧
      ∀ failure ∈ (g.generate settings .never).failures, ∀ property shape,
        failure.2 ≠ .unsupportedShape property shape := by
  have hcovers : Report.Covers g settings (g.shadowed settings.vocabulary) (g.generate settings .never) :=
    Report.covers_ofOutcomes fun node hnode => (List.mem_filter.mp hnode).2
  refine ⟨hcovers, ?_, hcovers.ne_unsupportedShape⟩
  have hsub : (g.shadowed settings.vocabulary).Sublist g.nodes :=
    List.filter_sublist.trans List.filter_sublist
  exact (nodup_names hg).sublist (hsub.map _)

theorem covers_generate_sample :
    ofTypes Sample.types = .ok Sample.graph ∧
      Report.Covers Sample.graph {} (Sample.graph.shadowed {}) (Sample.graph.generate {} .never) ∧
      ((Sample.graph.shadowed {}).map (·.qualifiedName)).Nodup ∧
      (Sample.graph.shadowed {}).map (·.qualifiedName) = ["Test.Shop.Order", "Test.Colors.Shade"] := by
  obtain ⟨hcovers, hnodup, -⟩ := covers_generate Sample.ofTypes_types {}
  exact ⟨Sample.ofTypes_types, hcovers, hnodup, by decide +kernel⟩

end Graph

end WireShadow
