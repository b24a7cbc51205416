import Mathlib.Logic.ExistsUnique
import WireShadow.Proofs.MemberTags
import WireShadow.Proofs.RuleReports

namespace WireShadow

namespace Property

inductive Fate
  | static | marked | shadowed | reported
deriving DecidableEq, Repr

/-- The ways a property ends, seen from what becomes of it: a shadowed one is a candidate of the analysis, and a
reported one has a diagnostic of its own. -/
def HasFate (g : Graph) (v : Vocabulary) (a : RootAnalysis) (p : Property) : Fate → Prop
  | .static => p.isStatic = true
  | .marked => p.marker v ≠ .untagged
  | .shadowed => ∃ c ∈ a.candidates, c.property = p
  | .reported => (p.contractReport? g v).isSome ∨ (p.shadowReport? v).isSome

def fate (g : Graph) (v : Vocabulary) (p : Property) : Fate :=
  match p.verdict g v with
  | .static => .static
  | .skipped _ => .marked
  | .generate _ _ => .shadowed
  | .missingContract _ | .notAuto | .missingAccessor => .reported

variable {g : Graph} {v : Vocabulary} {p : Property}

theorem exists_candidate_iff {node : TypeNode} (hp : p ∈ node.decl.properties) :
    (∃ c ∈ (node.analysis g v).candidates, c.property = p) ↔
      ∃ shape isInitOnly, p.verdict g v = .generate shape isInitOnly := by
  constructor
  · rintro ⟨c, hc, rfl⟩
    obtain ⟨q, -, hq⟩ := List.mem_filterMap.mp hc
    rw [candidate?] at hq
    split at hq
    · next shape isInitOnly hverdict => cases hq; exact ⟨shape, isInitOnly, hverdict⟩
    · cases hq
  · rintro ⟨shape, isInitOnly, hverdict⟩
    exact ⟨_, List.mem_filterMap.mpr ⟨p, hp, by rw [candidate?, hverdict]⟩, rfl⟩

theorem isSome_contractReport?_iff :
    (p.contractReport? g v).isSome ↔ ∃ name, p.verdict g v = .missingContract name := by
  rw [contractReport?]
  split
  · next name hverdict => simp [hverdict]
  · next hne => simpa using hne

theorem isSome_shadowReport?_iff :
    (p.shadowReport? v).isSome ↔ p.isStatic = false ∧ p.marker v = .untagged ∧ p.structuralMiss ≠ none := by
  rw [shadowReport?]
  split
  · next h => simpa using h
  · next h => simpa using h

theorem contractReport?_place {d : Diagnostic} (h : p.contractReport? g v = some d) :
    d.rule = .missingContract ∧ d.location = p.location := by
  rw [contractReport?] at h
  split at h <;> cases h
  exact ⟨rfl, rfl⟩

theorem shadowReport?_place {d : Diagnostic} (h : p.shadowReport? v = some d) :
    d.rule = .notShadowed ∧ d.location = p.location := by
  rw [shadowReport?] at h
  split at h <;> cases h
  exact ⟨rfl, rfl⟩

theorem hasFate_iff {node : TypeNode} (hp : p ∈ node.decl.properties) (fate : Fate) :
    (p.HasFate g v (node.analysis g v) fate ∧ (fate = .marked → p.isStatic = false)) ↔ fate = p.fate g v := by
  have hshadowed := exists_candidate_iff (g := g) (v := v) hp
  cases hstatic : p.isStatic with
  | true =>
      have hverdict := verdict_static (g := g) (v := v) hstatic
      cases fate <;> simp [HasFate, Property.fate, isSome_contractReport?_iff, isSome_shadowReport?_iff,
        hshadowed, hstatic, hverdict]
  | false =>
      cases hmarker : p.marker v with
      | explicit tag =>
          have hverdict := verdict_explicit (g := g) hstatic hmarker
          cases fate <;> simp [HasFate, Property.fate, isSome_contractReport?_iff, isSome_shadowReport?_iff,
            hshadowed, hstatic, hmarker, hverdict]
      | untagged =>
          cases hclass : p.type.classify g v with
          | missingContract name =>
              have hverdict := verdict_missingContract hstatic hmarker hclass
              cases fate <;> simp [HasFate, Property.fate, isSome_contractReport?_iff, hshadowed, hstatic, hmarker,
                hverdict]
          | shape shape =>
              have hverdict := verdict_shape hstatic hmarker hclass
              rcases structuralMiss_cases p with hmiss | hmiss | hmiss <;> rw [hmiss] at hverdict <;>
                cases fate <;> simp [HasFate, Property.fate, isSome_contractReport?_iff, isSome_shadowReport?_iff,
                  hshadowed, hstatic, hmarker, hverdict, hmiss]

theorem existsUnique_hasFate {node : TypeNode} (hp : p ∈ node.decl.properties) :
    ∃! fate, p.HasFate g v (node.analysis g v) fate ∧ (fate = .marked → p.isStatic = false) :=
  ⟨p.fate g v, (hasFate_iff hp _).mpr rfl, fun fate h => (hasFate_iff hp fate).mp h⟩

end Property

theorem Property.shadows_eq_flatMap (g : Graph) (v : Vocabulary) (custom : Option String) (p : Property) :
    p.shadows g v custom = (p.candidate? g v).toList.flatMap fun c =>
      c.property.shadow custom .plain :: if c.shape.isHelper then [c.property.shadow custom c.shape] else [] := by
  rw [shadows, candidate?]
  cases p.verdict g v with
  | generate shape isInitOnly => exact (List.flatMap_singleton _ _).symm
  | «static» | skipped | missingContract | notAuto | missingAccessor => rfl

theorem TypeNode.map_withTag_members_eq_flatMap (g : Graph) (v : Vocabulary) (node : TypeNode) :
    (node.analysis g v).members.map (·.withTag 0) = (node.analysis g v).candidates.flatMap fun c =>
      c.property.shadow (node.decl.customAttribute v) .plain ::
        if c.shape.isHelper then [c.property.shadow (node.decl.customAttribute v) c.shape] else [] := by
  have hcandidates : (node.analysis g v).candidates =
      node.decl.properties.flatMap fun p => (p.candidate? g v).toList := List.filterMap_eq_flatMap_toList _ _
  rw [map_withTag_members, shadows, hcandidates, List.flatMap_assoc]
  simp only [Property.shadows_eq_flatMap]

namespace Graph

variable {types : List DeclTree} {g : Graph}

theorem mem_diagnostics_of_share (hg : ofTypes types = .ok g) {settings : Settings} {node : TypeNode}
    (hnode : node ∈ g.nodes) {rule : Rule} {d : Diagnostic} (hd : d ∈ (g.visit node).share g settings rule) :
    d ∈ g.diagnostics settings := by
  have hmem : d ∈ g.nodes.flatMap fun node => (g.visit node).share g settings rule :=
    List.mem_flatMap.mpr ⟨node, hnode, hd⟩
  exact (List.mem_filter.mp ((perm_share hg rule).mem_iff.mpr hmem)).1

theorem exists_diagnostic_of_reported (hg : ofTypes types = .ok g) {settings : Settings} {node : TypeNode}
    (hnode : node ∈ g.roots settings.vocabulary) {p : Property} (hp : p ∈ node.decl.properties)
    (h : (p.contractReport? g settings.vocabulary).isSome ∨ (p.shadowReport? settings.vocabulary).isSome) :
    ∃ d ∈ g.diagnostics settings, (d.rule = .missingContract ∨ d.rule = .notShadowed) ∧
      d.location = p.location := by
  obtain ⟨hmem, hroot⟩ := List.mem_filter.mp hnode
  rcases h with h | h
  · obtain ⟨d, hd⟩ := Option.isSome_iff_exists.mp h
    obtain ⟨hrule, hlocation⟩ := Property.contractReport?_place hd
    have hshare : d ∈ (g.visit node).share g settings .missingContract := by
      rw [Visit.share, visit, if_pos hroot]
      exact List.mem_filterMap.mpr ⟨p, hp, hd⟩
    exact ⟨d, mem_diagnostics_of_share hg hmem hshare, .inl hrule, hlocation⟩
  · obtain ⟨d, hd⟩ := Option.isSome_iff_exists.mp h
    obtain ⟨hrule, hlocation⟩ := Property.shadowReport?_place hd
    have hshare : d ∈ (g.visit node).share g settings .notShadowed := by
      rw [Visit.share, visit, if_pos hroot]
      exact List.mem_filterMap.mpr ⟨p, hp, hd⟩
    exact ⟨d, mem_diagnostics_of_share hg hmem hshare, .inr hrule, hlocation⟩

/-- Every property of a type that is generated for ends in exactly one way, and none ends unnoticed: a candidate
gets a plain shadow, and for any other that is neither static nor marked there is a report. The markers of a static
property count for nothing. Beyond that, the two rules on properties report what they should and nothing else. -/
theorem every_property_accounted_for (hg : ofTypes types = .ok g) (settings : Settings) :
    (∀ node ∈ g.roots settings.vocabulary, ∃ a,
      (node.analyze g settings.vocabulary).outcome .never = .ok (some a) ∧
      (∀ p ∈ node.decl.properties,
        (∃! fate, p.HasFate g settings.vocabulary a fate ∧ (fate = .marked → p.isStatic = false)) ∧
        (p.HasFate g settings.vocabulary a .reported →
          ∃ d ∈ g.diagnostics settings, (d.rule = .missingContract ∨ d.rule = .notShadowed) ∧
            d.location = p.location)) ∧
      ∀ d, (a.describe g).outcome .never = .ok d →
        d.members.map (·.withTag 0) = a.candidates.flatMap fun c =>
          c.property.shadow a.customAttribute .plain ::
            if c.shape.isHelper then [c.property.shadow a.customAttribute c.shape] else []) ∧
    ((g.diagnostics settings).filter (·.rule == .missingContract)).Perm
      ((g.roots settings.vocabulary).flatMap fun node =>
        node.decl.properties.filterMap (·.contractReport? g settings.vocabulary)) ∧
    ((g.diagnostics settings).filter (·.rule == .notShadowed)).Perm
      ((g.roots settings.vocabulary).flatMap fun node =>
        node.decl.properties.filterMap (·.shadowReport? settings.vocabulary)) ∧
    ∀ p : Property,
      ((p.contractReport? g settings.vocabulary).isSome ↔
        ∃ name, p.verdict g settings.vocabulary = .missingContract name) ∧
      ((p.shadowReport? settings.vocabulary).isSome ↔
        p.isStatic = false ∧ p.marker settings.vocabulary = .untagged ∧ p.structuralMiss ≠ none) ∧
      ∀ d, p.contractReport? g settings.vocabulary = some d ∨ p.shadowReport? settings.vocabulary = some d →
        d.location = p.location := by
  refine ⟨fun node hnode => ?_, ?_, ?_, fun p => ⟨?_, ?_, fun d hd => ?_⟩⟩
  · have hroot := (List.mem_filter.mp hnode).2
    have hanalyze := congrArg Prod.fst (TypeNode.analyze_never (g := g) hroot)
    refine ⟨_, hanalyze, fun p hp => ⟨Property.existsUnique_hasFate hp, fun hreported => ?_⟩, fun d hd => ?_⟩
    · exact exists_diagnostic_of_reported hg hnode hp hreported
    · obtain ⟨heads, rfl⟩ := RootAnalysis.exists_of_describe_ok hd
      exact TypeNode.map_withTag_members_eq_flatMap g settings.vocabulary node
  · rw [roots, ← flatMap_ite]
    exact perm_share hg .missingContract
  · rw [roots, ← flatMap_ite]
    exact perm_share hg .notShadowed
  · exact Property.isSome_contractReport?_iff
  · exact Property.isSome_shadowReport?_iff
  · rcases hd with hd | hd
    · exact (Property.contractReport?_place hd).2
    · exact (Property.shadowReport?_place hd).2

theorem every_property_accounted_for_order :
    ofTypes Sample.types = .ok Sample.graph ∧ Sample.orderNode ∈ Sample.graph.roots {} ∧
      Sample.order.properties.map (·.fate Sample.graph {}) =
        [.static, .shadowed, .shadowed, .reported, .shadowed, .marked] ∧
      ∃ a, (Sample.orderNode.analyze Sample.graph {}).outcome .never = .ok (some a) ∧
        (∀ p ∈ Sample.order.properties,
          ∃! fate, p.HasFate Sample.graph {} a fate ∧ (fate = .marked → p.isStatic = false)) ∧
        ∃ owner ∈ Sample.order.properties, owner.name = "Owner" ∧ owner.HasFate Sample.graph {} a .reported ∧
          ∃ d ∈ Sample.graph.diagnostics {}, (d.rule = .missingContract ∨ d.rule = .notShadowed) ∧
            d.location = owner.location := by
  obtain ⟨a, ha, hfates, -⟩ := (every_property_accounted_for Sample.ofTypes_types {}).1 Sample.orderNode
    Sample.orderNode_mem_roots
  let owner := Sample.property "Owner" { name := "Shop.Owner" } []
  have howner : owner ∈ Sample.order.properties := .tail _ (.tail _ (.tail _ (.head _)))
  have hreported : owner.HasFate Sample.graph {} a .reported := .inl (by decide +kernel)
  exact ⟨Sample.ofTypes_types, Sample.orderNode_mem_roots, by decide +kernel, a, ha, fun p hp => (hfates p hp).1,
    owner, howner, rfl, hreported, (hfates owner howner).2 hreported⟩

/-- A static property with a marker ends in two ways, as static and as marked. -/
theorem static_property_can_be_marked :
    ofTypes Sample.types = .ok Sample.graph ∧ Sample.orderNode ∈ Sample.graph.roots {} ∧
      ∃ a, (Sample.orderNode.analyze Sample.graph {}).outcome .never = .ok (some a) ∧
        ∃ count ∈ Sample.order.properties, count.name = "Count" ∧
          ¬∃! fate, count.HasFate Sample.graph {} a fate := by
  have hanalyze := congrArg Prod.fst (TypeNode.analyze_never (g := Sample.graph) Sample.isRoot_order)
  refine ⟨Sample.ofTypes_types, Sample.orderNode_mem_roots, _, hanalyze, _, List.mem_cons_self, rfl, ?_⟩
  rintro ⟨fate, -, honly⟩
  have hmarked := honly .marked (by decide +kernel : Property.marker {} _ ≠ .untagged)
  have hstatic := honly .static rfl
  cases hmarked.trans hstatic.symm

end Graph

end WireShadow
