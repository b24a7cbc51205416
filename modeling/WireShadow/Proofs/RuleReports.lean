import Mathlib.Data.List.Basic
import WireShadow.Diagnostic.Analysis
import WireShadow.Generation
import WireShadow.Proofs.Verdict
import WireShadow.Proofs.Walk

namespace WireShadow

namespace Diagnostic

def AllOf (rule : Rule) (ds : List Diagnostic) : Prop := ∀ d ∈ ds, d.rule = rule

variable {rule : Rule} {ds ds' : List Diagnostic}

theorem allOf_nil (rule : Rule) : AllOf rule [] := fun _ h => absurd h List.not_mem_nil

theorem allOf_singleton (rule : Rule) (location : Location) (message : String) :
    AllOf rule [rule.diagnostic location message] := fun _ h => by
  rw [List.mem_singleton.mp h]
  rfl

theorem AllOf.cons (h : AllOf rule ds) (location : Location) (message : String) :
    AllOf rule (rule.diagnostic location message :: ds) :=
  List.forall_mem_cons.mpr ⟨rfl, h⟩

theorem AllOf.filter_eq (h : AllOf rule ds) (other : Rule) :
    ds.filter (·.rule == other) = if rule = other then ds else [] := by
  split
  · next heq => exact List.filter_eq_self.mpr fun d hd => by simp [h d hd, heq]
  · next hne => exact List.filter_eq_nil_iff.mpr fun d hd => by simp [h d hd, hne]

end Diagnostic

open Diagnostic (AllOf allOf_nil allOf_singleton)

namespace Property

def contractReport? (g : Graph) (v : Vocabulary) (p : Property) : Option Diagnostic :=
  match p.verdict g v with
  | .missingContract name =>
    some (Rule.missingContract.diagnostic p.location
      ("Property '" ++ p.name ++ "' has type '" ++ name ++
        "', which must be a partial type marked with the contract attribute"))
  | _ => none

def shadowReport? (v : Vocabulary) (p : Property) : Option Diagnostic :=
  if p.isStatic = false ∧ p.marker v = .untagged ∧ p.structuralMiss ≠ none then
    some (Rule.notShadowed.diagnostic p.location
      ("Property '" ++ p.name ++ "' is not an auto-implemented property with a getter and setter; " ++
        "mark it with an explicit tag or ignore it"))
  else none

variable {g : Graph} {v : Vocabulary} {p : Property}

theorem allOf_contractReport? (g : Graph) (v : Vocabulary) (p : Property) :
    AllOf .missingContract (p.contractReport? g v).toList := by
  rw [contractReport?]
  split
  · exact allOf_singleton _ _ _
  · exact allOf_nil _

theorem allOf_shadowReport? (v : Vocabulary) (p : Property) : AllOf .notShadowed (p.shadowReport? v).toList := by
  rw [shadowReport?]
  split
  · exact allOf_singleton _ _ _
  · exact allOf_nil _

theorem contractReport?_of_ne (h : ∀ name, p.verdict g v ≠ .missingContract name) :
    p.contractReport? g v = none := by
  rw [contractReport?]
  split
  · next name hname => exact absurd hname (h name)
  · rfl

/-- Analysis goes on behind the first thing that is wrong with a property, so one property can be reported
twice. -/
theorem propertyDiagnostics_eq (g : Graph) (v : Vocabulary) (p : Property) :
    TypeNode.propertyDiagnostics g v p = (p.contractReport? g v).toList ++ (p.shadowReport? v).toList := by
  cases hstatic : p.isStatic with
  | true =>
      have hnone := contractReport?_of_ne (p := p) (g := g) (v := v) fun name => by simp [verdict_static hstatic]
      simp [TypeNode.propertyDiagnostics, shadowReport?, hstatic, hnone]
  | false =>
      cases hmarker : p.marker v with
      | explicit tag =>
          have hnone := contractReport?_of_ne (p := p) (g := g) (v := v) fun name => by
            simp [verdict_explicit hstatic hmarker]
          simp [TypeNode.propertyDiagnostics, shadowReport?, hmarker, hnone]
      | untagged =>
          cases hclass : p.type.classify g v with
          | missingContract name =>
              have hverdict := verdict_missingContract hstatic hmarker hclass
              cases hmiss : p.structuralMiss <;>
                simp [TypeNode.propertyDiagnostics, contractReport?, shadowReport?, hstatic, hmarker, hclass,
                  hverdict, hmiss]
          | shape shape =>
              have hnone := contractReport?_of_ne (p := p) (g := g) (v := v) fun name => by
                rw [verdict_shape hstatic hmarker hclass]
                rcases structuralMiss_cases p with h | h | h <;> simp [h]
              cases hmiss : p.structuralMiss <;>
                simp [TypeNode.propertyDiagnostics, shadowReport?, hstatic, hmarker, hclass, hnone, hmiss]

end Property

namespace TypeNode

variable {g : Graph} {v : Vocabulary} {settings : Settings} {node : TypeNode}

theorem allOf_closedAncestor (ancestors : List TypeNode) :
    AllOf .nestedInClosed (node.closedAncestor v ancestors) := by
  rw [closedAncestor]
  split
  · split
    · exact allOf_nil _
    · exact allOf_singleton _ _ _
  · exact allOf_nil _

theorem allOf_repeatedTags (claimed : List (Nat × String)) (ps : List Property) :
    AllOf .duplicateTag (repeatedTags v claimed ps) := by
  fun_induction repeatedTags v claimed ps with
  | case1 => exact allOf_nil _
  | case2 claimed p ps tag hmarker owner howner ih => exact ih.cons _ _
  | case3 claimed p ps tag hmarker hnew ih => exact ih
  | case4 claimed p ps hmarker ih => exact ih

theorem allOf_duplicateTags : AllOf .duplicateTag (node.duplicateTags v) := by
  rw [duplicateTags]
  split
  · exact allOf_repeatedTags _ _
  · exact allOf_nil _

theorem allOf_badOptions : AllOf .malformedOptions (node.badOptions v) := by
  rw [badOptions]
  split
  · exact allOf_singleton _ _ _
  · exact allOf_nil _

theorem allOf_baseChain : AllOf .baseNotChained (node.baseChain g v) := by
  rw [baseChain]
  split
  · exact allOf_nil _
  · exact allOf_singleton _ _ _

theorem allOf_clashes (declared : List String) (taken : List (String × String))
    (members : List (Property × String)) : AllOf .duplicateMember (clashes declared taken members) := by
  fun_induction clashes declared taken members with
  | case1 => exact allOf_nil _
  | case2 taken p name members report hdeclared ih => exact ih.cons _ _
  | case3 taken p name members report hdeclared owner howner ih => exact ih.cons _ _
  | case4 taken p name members hdeclared hnew ih => exact ih

theorem allOf_duplicateMembers : AllOf .duplicateMember (node.duplicateMembers g settings) :=
  allOf_clashes _ _ _

end TypeNode

namespace Graph

def Visit.share (g : Graph) (settings : Settings) (visit : Visit) : Rule → List Diagnostic
  | .missingContract =>
    if visit.node.decl.isRoot settings.vocabulary then
      visit.node.decl.properties.filterMap (·.contractReport? g settings.vocabulary)
    else []
  | .nestedInClosed => visit.node.closedAncestor settings.vocabulary visit.ancestors
  | .notShadowed =>
    if visit.node.decl.isRoot settings.vocabulary then
      visit.node.decl.properties.filterMap (·.shadowReport? settings.vocabulary)
    else []
  | .baseNotChained =>
    if visit.node.decl.isRoot settings.vocabulary then visit.node.baseChain g settings.vocabulary else []
  | .duplicateTag => visit.node.duplicateTags settings.vocabulary
  | .malformedOptions => visit.node.badOptions settings.vocabulary
  | .duplicateMember =>
    if visit.node.decl.isRoot settings.vocabulary then visit.node.duplicateMembers g settings else []

variable {g : Graph} {settings : Settings}

theorem filter_propertyDiagnostics (v : Vocabulary) (ps : List Property) (rule : Rule) :
    (ps.flatMap (TypeNode.propertyDiagnostics g v)).filter (·.rule == rule) =
      if rule = .missingContract then ps.filterMap (·.contractReport? g v)
      else if rule = .notShadowed then ps.filterMap (·.shadowReport? v)
      else [] := by
  rw [List.filter_flatMap]
  simp only [Property.propertyDiagnostics_eq, List.filter_append, (Property.allOf_contractReport? g v _).filter_eq,
    (Property.allOf_shadowReport? v _).filter_eq]
  cases rule <;> simp [List.filterMap_eq_flatMap_toList]

theorem Visit.filter_diagnostics (visit : Visit) (rule : Rule) :
    (visit.diagnostics g settings).filter (·.rule == rule) = visit.share g settings rule := by
  simp only [Visit.diagnostics, List.filter_append, (TypeNode.allOf_closedAncestor _).filter_eq,
    TypeNode.allOf_duplicateTags.filter_eq, TypeNode.allOf_badOptions.filter_eq]
  cases hroot : visit.node.decl.isRoot settings.vocabulary with
  | true =>
      simp only [if_true, List.filter_append, filter_propertyDiagnostics, TypeNode.allOf_baseChain.filter_eq,
        TypeNode.allOf_duplicateMembers.filter_eq]
      cases rule <;> simp [Visit.share, hroot]
  | false => cases rule <;> simp [Visit.share, hroot]

/-- What one rule reports of all types is what it reports of each of them. -/
theorem perm_share {types : List DeclTree} (h : ofTypes types = .ok g) (rule : Rule) :
    ((g.diagnostics settings).filter (·.rule == rule)).Perm
      (g.nodes.flatMap fun node => (g.visit node).share g settings rule) := by
  have hsort := (List.mergeSort_perm (g.walk.flatMap (·.diagnostics g settings)) Diagnostic.le).filter
    (·.rule == rule)
  rw [walk_eq h, List.flatMap_map, List.filter_flatMap] at hsort
  simp only [Visit.filter_diagnostics] at hsort
  rw [diagnostics, walk_eq h, List.flatMap_map]
  exact hsort

end Graph

end WireShadow
