import WireShadow.Diagnostic.Analysis
import WireShadow.Proofs.Course
import WireShadow.Proofs.TypeText
import WireShadow.Proofs.UnrootedGraph
import WireShadow.Proofs.Walk

namespace WireShadow

namespace CSharp

mutual

theorem typeText_unroot : (t : TypeRef) → typeText t.unroot = typeText t
  | ⟨name, kind, arguments, nullable, interfaces⟩ => by
      have harguments := map_typeText_unroot arguments
      rw [typeText_eq, typeText_eq, TypeRef.qualifiedName_unroot, TypeRef.kind_unroot, TypeRef.nullable_unroot,
        TypeRef.arguments_unroot, harguments]

theorem map_typeText_unroot : (types : List TypeRef) → (types.map TypeRef.unroot).map typeText = types.map typeText
  | [] => rfl
  | type :: types => by
      rw [List.map_cons, List.map_cons, List.map_cons, typeText_unroot, map_typeText_unroot]

end

end CSharp

namespace Candidate

theorem member_unroot (c : Candidate) (custom : Option String) (shape : Shape) (tag : Nat) :
    c.unroot.member custom shape tag = c.member custom shape tag := by
  have harguments : CSharp.typeTexts c.unroot.property.type.arguments = CSharp.typeTexts c.property.type.arguments := by
    rw [CSharp.typeTexts_eq_map, CSharp.typeTexts_eq_map, unroot, Property.unroot, TypeRef.arguments_unroot,
      CSharp.map_typeText_unroot]
  rw [member, member, harguments, unroot, Property.unroot, CSharp.typeText_unroot]

theorem members_unroot (custom : Option String) (allocator : TagAllocator) (candidates : List Candidate) :
    members custom allocator (candidates.map unroot) = members custom allocator candidates := by
  induction candidates generalizing allocator with
  | nil => rfl
  | cons c candidates ih =>
      rw [List.map_cons, members, members]
      simp only [member_unroot, ih]
      rfl

end Candidate

section Generation

variable (g : Graph) (v : Vocabulary) (settings : Settings) (node : TypeNode)

def RootAnalysis.unroot (a : RootAnalysis) : RootAnalysis :=
  { a with node := a.node.unroot, candidates := a.candidates.map Candidate.unroot }

theorem TypeNode.analysis_unroot : node.unroot.analysis g.unroot v.unroot = (node.analysis g v).unroot := by
  have hclaimed : node.unroot.decl.properties.filterMap (·.claimed? g.unroot v.unroot) =
      node.decl.properties.filterMap (·.claimed? g v) := by
    simp only [unroot, TypeDecl.unroot, List.filterMap_map, Function.comp_def, Property.claimed?_unroot]
  have hcandidates := filterMap_candidate?_unroot g v node.decl.properties
  have hcustom := TypeDecl.customAttribute_unroot v node.decl
  exact congr (congrArg₂ (RootAnalysis.mk node.unroot) (congrArg TagSet.ofList hclaimed) hcandidates) hcustom

theorem RootAnalysis.heads_unroot (a : RootAnalysis) : a.unroot.heads g.unroot = a.heads g := by
  have houter : (g.unroot.enclosing a.unroot.node).reverse.mapM TypeHead.ofNode =
      (g.enclosing a.node).reverse.mapM TypeHead.ofNode := by
    rw [unroot, Graph.enclosing_unroot, ← List.map_reverse, List.mapM_map]
    rfl
  rw [heads, heads, houter]
  rfl

theorem RootAnalysis.descriptor_unroot (a : RootAnalysis) (heads : TypeHead × List TypeHead) :
    a.unroot.descriptor heads = a.descriptor heads := by
  rw [descriptor, descriptor, members, members, unroot, Candidate.members_unroot]

theorem TypeDescriptor.emit_unroot (d : TypeDescriptor) : d.emit settings.unroot = d.emit settings := by
  have hline (m : Member) : m.attributeLine settings.unroot = m.attributeLine settings := by
    rw [Member.attributeLine, Member.attributeLine, Settings.unroot, Vocabulary.memberText_unroot]
  have hemit (m : Member) : m.emit settings.unroot = m.emit settings := by
    rw [Member.emit, Member.emit, hline]
    rfl
  have hmembers : (d.members.mapM fun m => m.emit settings.unroot) = d.members.mapM fun m => m.emit settings :=
    congrArg (d.members.mapM ·) (funext hemit)
  rw [emit, emit, hmembers]
  rfl

theorem TypeNode.course_unroot : node.unroot.course g.unroot settings.unroot = node.course g settings := by
  have hroot : node.unroot.decl.isRoot settings.unroot.vocabulary = node.decl.isRoot settings.vocabulary :=
    node.decl.isRoot_unroot settings.vocabulary
  have hanalysis : node.unroot.analysis g.unroot settings.unroot.vocabulary =
      (node.analysis g settings.vocabulary).unroot := node.analysis_unroot g settings.vocabulary
  have hempty (a : RootAnalysis) : a.unroot.candidates.isEmpty = a.candidates.isEmpty := List.isEmpty_map
  have hcount (a : RootAnalysis) : a.unroot.candidates.length = a.candidates.length := List.length_map _
  have hproperties : node.unroot.decl.properties.length = node.decl.properties.length := List.length_map _
  simp only [course, hroot, hanalysis, hempty, hcount, hproperties, RootAnalysis.heads_unroot,
    RootAnalysis.descriptor_unroot, TypeDescriptor.emit_unroot]

theorem Report.ofOutcomes_unroot (outcomes : List (TypeNode × Except Failure (Option GeneratedUnit))) :
    ofOutcomes (outcomes.map fun e => (e.1.unroot, e.2)) = ofOutcomes outcomes := by
  rw [ofOutcomes, ofOutcomes, List.filterMap_map, List.filterMap_map]
  refine congrArg₂ Report.mk (congrArg (outcomes.filterMap ·) ?_) (congrArg (outcomes.filterMap ·) ?_) <;>
    funext e <;> obtain ⟨_, _ | _⟩ := e <;> rfl

theorem Graph.generate_unroot (token : Token) :
    g.unroot.generate settings.unroot token = g.generate settings token := by
  have hroots : g.unroot.roots settings.unroot.vocabulary = (g.roots settings.vocabulary).map TypeNode.unroot := by
    simp only [roots, unroot, mapNodes, List.filter_map, Function.comp_def, TypeNode.unroot, Settings.unroot,
      TypeDecl.isRoot_unroot]
  have houtcome (node : TypeNode) : (generateRoot g.unroot settings.unroot node.unroot).outcome token =
      (generateRoot g settings node).outcome token := by
    rw [TypeNode.generateRoot_eq_run, TypeNode.generateRoot_eq_run, TypeNode.course_unroot]
  have hunroot := Report.ofOutcomes_unroot
    ((g.roots settings.vocabulary).map fun node => (node, (generateRoot g settings node).outcome token))
  rw [List.map_map] at hunroot
  rw [generate, generate, generateWith, generateWith, hroots, List.map_map, ← hunroot]
  simp only [Function.comp_def, houtcome]

end Generation

namespace TypeNode

variable (g : Graph) (v : Vocabulary) (settings : Settings) (node : TypeNode)

theorem closedAncestor_unroot (ancestors : List TypeNode) :
    node.unroot.closedAncestor v.unroot (ancestors.map unroot) = node.closedAncestor v ancestors := by
  have hcontract : hasContract v.unroot node.unroot.decl.attributes = hasContract v node.decl.attributes :=
    node.decl.hasContract_unroot v
  have houter : (ancestors.map unroot).find? (!·.decl.isPartial) =
      (ancestors.find? (!·.decl.isPartial)).map unroot := by
    rw [List.find?_map]
    rfl
  rw [closedAncestor, closedAncestor, hcontract, houter]
  cases ancestors.find? (!·.decl.isPartial) <;> rfl

theorem repeatedTags_unroot (claimed : List (Nat × String)) (properties : List Property) :
    repeatedTags v.unroot claimed (properties.map Property.unroot) = repeatedTags v claimed properties := by
  induction properties generalizing claimed with
  | nil => rfl
  | cons p properties ih =>
      rw [List.map_cons, repeatedTags, repeatedTags, Property.marker_unroot]
      simp only [ih]
      rfl

theorem duplicateTags_unroot : node.unroot.duplicateTags v.unroot = node.duplicateTags v := by
  have hcontract : hasContract v.unroot node.unroot.decl.attributes = hasContract v node.decl.attributes :=
    node.decl.hasContract_unroot v
  have hproperties : node.unroot.decl.properties.filter (!·.isStatic) =
      (node.decl.properties.filter (!·.isStatic)).map Property.unroot := List.filter_map
  rw [duplicateTags, duplicateTags, hcontract, hproperties, repeatedTags_unroot]

theorem badOptions_unroot : node.unroot.badOptions v.unroot = node.badOptions v := by
  have hoptions : node.unroot.decl.options v.unroot = node.decl.options v := node.decl.options_unroot v
  rw [badOptions, badOptions, hoptions]
  rfl

theorem propertyDiagnostics_unroot (p : Property) :
    propertyDiagnostics g.unroot v.unroot p.unroot = propertyDiagnostics g v p := by
  have hclass : p.unroot.type.classify g.unroot v.unroot = p.type.classify g v := p.type.classify_unroot g v
  rw [propertyDiagnostics, propertyDiagnostics, Property.marker_unroot, hclass]
  rfl

theorem brokenLink_unroot (steps : Nat) (visited : List String) (derived : String) (base : Option String) :
    brokenLink g.unroot v.unroot steps visited derived base = brokenLink g v steps visited derived base := by
  induction steps generalizing visited derived base with
  | zero => rfl
  | succ steps ih =>
      cases base with
      | none => rfl
      | some base =>
          rw [brokenLink, brokenLink, Graph.lookup_unroot]
          cases g.lookup base with
          | none => rfl
          | some node =>
              have hincludes : node.unroot.decl.includes v.unroot derived = node.decl.includes v derived :=
                node.decl.includes_unroot v derived
              have hbase : node.unroot.decl.baseType.map TypeName.normalize =
                  node.decl.baseType.map TypeName.normalize := node.decl.baseName_unroot
              simp only [Option.map_some, hincludes, hbase, ih]

theorem baseChain_unroot : node.unroot.baseChain g.unroot v.unroot = node.baseChain g v := by
  have hsize : g.unroot.size = g.size := Graph.size_mapNodes TypeNode.unroot
  have hbase : node.unroot.decl.baseType.map TypeName.normalize = node.decl.baseType.map TypeName.normalize :=
    node.decl.baseName_unroot
  rw [baseChain, baseChain, hsize, hbase, brokenLink_unroot]
  rfl

theorem memberNames_unroot :
    memberNames g.unroot settings.unroot node.unroot =
      (memberNames g settings node).map fun e => (e.1.unroot, e.2) := by
  have hcandidates := filterMap_candidate?_unroot g settings.vocabulary node.decl.properties
  change (node.decl.properties.map Property.unroot).filterMap _ = _ at hcandidates
  rw [memberNames, memberNames]
  simp only [unroot, TypeDecl.unroot, Settings.unroot, hcandidates, List.flatMap_map, List.map_flatMap, List.map_map]
  rfl

theorem clashes_unroot (declared : List String) (taken : List (String × String))
    (members : List (Property × String)) :
    clashes declared taken (members.map fun e => (e.1.unroot, e.2)) = clashes declared taken members := by
  induction members generalizing taken with
  | nil => rfl
  | cons e members ih =>
      rw [List.map_cons, clashes, clashes]
      simp only [ih]
      rfl

theorem duplicateMembers_unroot :
    node.unroot.duplicateMembers g.unroot settings.unroot = node.duplicateMembers g settings := by
  have hdeclared : node.unroot.decl.properties.map (·.name) = node.decl.properties.map (·.name) := by
    simp only [unroot, TypeDecl.unroot, List.map_map]
    rfl
  rw [duplicateMembers, duplicateMembers, memberNames_unroot, clashes_unroot, hdeclared]

end TypeNode

namespace Graph

variable {g : Graph}

theorem visit_diagnostics_unroot (settings : Settings) (node : TypeNode) :
    (g.unroot.visit node.unroot).diagnostics g.unroot settings.unroot = (g.visit node).diagnostics g settings := by
  have hancestors : (g.unroot.visit node.unroot).ancestors = (g.visit node).ancestors.map TypeNode.unroot := by
    rw [visit, visit, enclosing_unroot, List.map_reverse]
  have hroot : node.unroot.decl.isRoot settings.unroot.vocabulary = node.decl.isRoot settings.vocabulary :=
    node.decl.isRoot_unroot settings.vocabulary
  have hproperties : node.unroot.decl.properties.flatMap
        (TypeNode.propertyDiagnostics g.unroot settings.unroot.vocabulary) =
      node.decl.properties.flatMap (TypeNode.propertyDiagnostics g settings.vocabulary) := by
    simp only [TypeNode.unroot, TypeDecl.unroot, Settings.unroot, List.flatMap_map, TypeNode.propertyDiagnostics_unroot]
  have hclosed := node.closedAncestor_unroot settings.vocabulary (g.visit node).ancestors
  rw [← hancestors] at hclosed
  have htags := node.duplicateTags_unroot settings.vocabulary
  have hoptions := node.badOptions_unroot settings.vocabulary
  have hchain := node.baseChain_unroot g settings.vocabulary
  have hmembers := node.duplicateMembers_unroot g settings
  have houtside := congrArg₂ (· ++ ·) (congrArg₂ (· ++ ·) hclosed htags) hoptions
  have hinside := congrArg₂ (· ++ ·) (congrArg₂ (· ++ ·) hproperties hchain) hmembers
  exact congrArg₂ (· ++ ·) houtside (congrArg₂ (fun (isRoot : Bool) => (if isRoot then · else [])) hroot hinside)

theorem diagnostics_unroot {types : List DeclTree} (h : ofTypes types = .ok g) (settings : Settings) :
    g.unroot.diagnostics settings.unroot = g.diagnostics settings := by
  have hunroot : ofTypes (DeclTree.unrootAll types) = .ok g.unroot := by
    rw [ofTypes_unroot, h]
    rfl
  have hvisits : (g.unroot.walk.flatMap fun visit => visit.diagnostics g.unroot settings.unroot) =
      g.walk.flatMap fun visit => visit.diagnostics g settings := by
    rw [walk_eq hunroot, walk_eq h, List.flatMap_map, List.flatMap_map]
    simp only [unroot, mapNodes, List.flatMap_map]
    exact congrArg (g.nodes.flatMap ·) (funext (visit_diagnostics_unroot settings))
  rw [diagnostics, diagnostics, hvisits]

end Graph

end WireShadow
