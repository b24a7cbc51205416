import WireShadow.Proofs.Lists
import WireShadow.Proofs.Pass

namespace WireShadow

def Graph.outermostEnum (g : Graph) (node : TypeNode) : Option TypeNode :=
  ((g.enclosing node).reverse ++ [node]).find? (·.decl.kind == .enum)

theorem Graph.outermostEnum_eq_none {g : Graph} {node : TypeNode}
    (h : ∀ e ∈ node :: g.enclosing node, e.decl.kind ≠ .enum) : g.outermostEnum node = none := by
  refine List.find?_eq_none.mpr fun e he => ?_
  have hmem : e ∈ node :: g.enclosing node := by
    simpa [or_comm] using he
  simpa using h e hmem

namespace TypeHead

theorem ofNode_enum {node : TypeNode} (h : node.decl.kind = .enum) :
    ofNode node = .error (.invalidGraph (.partialEnum node.decl.name)) := by
  simp only [ofNode, PartialKind.ofDecl, h]
  rfl

theorem exists_ofNode {node : TypeNode} (h : node.decl.kind ≠ .enum) : ∃ head, ofNode node = .ok head := by
  cases hkind : node.decl.kind with
  | enum => exact absurd hkind h
  | interface =>
      simp only [ofNode, PartialKind.ofDecl, hkind]
      exact ⟨_, rfl⟩
  | «class» | struct =>
      cases hrecord : node.decl.isRecord <;> simp only [ofNode, PartialKind.ofDecl, hkind, hrecord] <;>
        exact ⟨_, rfl⟩

theorem mapM_ofNode_error {nodes : List TypeNode} {e : TypeNode}
    (h : nodes.find? (·.decl.kind == .enum) = some e) :
    nodes.mapM ofNode = .error (.invalidGraph (.partialEnum e.decl.name)) := by
  obtain ⟨henum, before, after, rfl, hbefore⟩ := List.find?_eq_some_iff_append.mp h
  refine mapM_eq_error (fun node hnode => exists_ofNode ?_) (ofNode_enum (by simpa using henum))
  simpa using hbefore node hnode

theorem exists_mapM_ofNode {nodes : List TypeNode} (h : nodes.find? (·.decl.kind == .enum) = none) :
    ∃ heads, nodes.mapM ofNode = .ok heads :=
  exists_mapM_eq_ok fun node hnode => exists_ofNode (by simpa using List.find?_eq_none.mp h node hnode)

end TypeHead

namespace RootAnalysis

variable {g : Graph} {a : RootAnalysis}

theorem heads_error {e : TypeNode} (h : g.outermostEnum a.node = some e) :
    a.heads g = .error (.invalidGraph (.partialEnum e.decl.name)) := by
  rw [Graph.outermostEnum, List.find?_append] at h
  cases houter : (g.enclosing a.node).reverse.find? (·.decl.kind == .enum) with
  | some outer =>
      obtain rfl : outer = e := by simpa [houter] using h
      rw [heads, TypeHead.mapM_ofNode_error houter]
      rfl
  | none =>
      obtain ⟨hkind, rfl⟩ : a.node.decl.kind = .enum ∧ a.node = e := by
        simpa [houter, List.find?_singleton] using h
      obtain ⟨heads, hheads⟩ := TypeHead.exists_mapM_ofNode houter
      rw [RootAnalysis.heads, hheads, TypeHead.ofNode_enum hkind]
      rfl

theorem exists_heads (h : g.outermostEnum a.node = none) : ∃ heads, a.heads g = .ok heads := by
  obtain ⟨houter, hself⟩ : (g.enclosing a.node).reverse.find? (·.decl.kind == .enum) = none ∧
      a.node.decl.kind ≠ .enum := by
    simpa [Graph.outermostEnum, List.find?_append] using h
  obtain ⟨enclosing, henclosing⟩ := TypeHead.exists_mapM_ofNode houter
  obtain ⟨head, hhead⟩ := TypeHead.exists_ofNode hself
  rw [heads, henclosing, hhead]
  exact ⟨(head, enclosing.reverse), rfl⟩

theorem forall₂_heads {heads : TypeHead × List TypeHead} (h : a.heads g = .ok heads) :
    List.Forall₂ (fun node head => TypeHead.ofNode node = .ok head) (a.node :: g.enclosing a.node)
      (heads.1 :: heads.2) := by
  rw [RootAnalysis.heads] at h
  cases houter : (g.enclosing a.node).reverse.mapM TypeHead.ofNode with
  | error failure => rw [houter] at h; cases h
  | ok outer =>
      cases hself : TypeHead.ofNode a.node with
      | error failure => rw [houter, hself] at h; cases h
      | ok head =>
          rw [houter, hself] at h
          cases h
          have houter := List.forall₂_reverse_iff.mpr (forall₂_of_mapM_eq_ok houter)
          rw [List.reverse_reverse] at houter
          exact .cons hself houter

def descriptor (a : RootAnalysis) (heads : TypeHead × List TypeHead) : TypeDescriptor :=
  { head := heads.1, enclosing := heads.2, members := a.members, claimed := a.claimed }

theorem describe_never_ok {heads : TypeHead × List TypeHead} (h : a.heads g = .ok heads) :
    a.describe g .never = (.ok (a.descriptor heads), .never) := by
  rw [describe, h]
  exact (Pass.bind_ok rfl).trans (Pass.bind_ok (Pass.checkpoints_never _))

theorem describe_never_error {e : Failure} (h : a.heads g = .error e) :
    a.describe g .never = (.error e, .never) := by
  rw [describe, h]
  exact Pass.bind_error rfl

theorem exists_of_describe_ok {d : TypeDescriptor} (h : (a.describe g).outcome .never = .ok d) :
    ∃ heads, d = a.descriptor heads := by
  cases hheads : a.heads g with
  | error failure => cases h.symm.trans (congrArg Prod.fst (describe_never_error hheads))
  | ok heads =>
      cases h.symm.trans (congrArg Prod.fst (describe_never_ok hheads))
      exact ⟨heads, rfl⟩

end RootAnalysis

namespace TypeNode

variable {g : Graph} {v : Vocabulary} {node : TypeNode}

theorem analyze_never (h : node.decl.isRoot v) :
    node.analyze g v .never = (.ok (some (node.analysis g v)), .never) := by
  rw [analyze, if_pos h]
  exact Pass.bind_ok (Pass.checkpoints_never _)

def describe (g : Graph) (v : Vocabulary) (node : TypeNode) : Pass (Option TypeDescriptor) := do
  match ← node.analyze g v with
  | none => return none
  | some a => return some (← a.describe g)

/-- What a type is described as when nobody cancels the work. -/
def DescribedAs (g : Graph) (v : Vocabulary) (node : TypeNode) (d : TypeDescriptor) : Prop :=
  (node.describe g v).outcome .never = .ok (some d)

theorem describedAs_descriptor (hroot : node.decl.isRoot v) {heads : TypeHead × List TypeHead}
    (h : (node.analysis g v).heads g = .ok heads) :
    node.DescribedAs g v ((node.analysis g v).descriptor heads) := by
  have hanalyze := analyze_never (g := g) hroot
  have hdescribe := RootAnalysis.describe_never_ok h
  have hrun : node.describe g v .never = (.ok (some ((node.analysis g v).descriptor heads)), .never) :=
    (Pass.bind_ok hanalyze).trans (Pass.bind_ok hdescribe)
  exact congrArg Prod.fst hrun

theorem DescribedAs.exists_heads (hroot : node.decl.isRoot v) {d : TypeDescriptor}
    (h : node.DescribedAs g v d) : ∃ heads, d = (node.analysis g v).descriptor heads := by
  cases hheads : (node.analysis g v).heads g with
  | error failure =>
      have hrun : node.describe g v .never = (.error failure, .never) :=
        (Pass.bind_ok (analyze_never hroot)).trans
          (Pass.bind_error (RootAnalysis.describe_never_error hheads))
      cases h.symm.trans (congrArg Prod.fst hrun)
  | ok heads =>
      cases h.symm.trans (describedAs_descriptor hroot hheads)
      exact ⟨heads, rfl⟩

end TypeNode

end WireShadow
