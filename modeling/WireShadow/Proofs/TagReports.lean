import WireShadow.Proofs.Earlier
import WireShadow.Proofs.MemberTags
import WireShadow.Proofs.RuleReports

namespace WireShadow

namespace Property

def explicitTag? (v : Vocabulary) (p : Property) : Option Nat :=
  match p.marker v with
  | .explicit tag => tag
  | .untagged => none

def tagReport? (v : Vocabulary) (earlier : List Property) (p : Property) : Option Diagnostic :=
  match p.explicitTag? v with
  | none => none
  | some tag =>
    (earlier.find? fun q => q.explicitTag? v = some tag).map fun owner =>
      Rule.duplicateTag.diagnostic p.location
        ("Tag " ++ toString tag ++ " on property '" ++ p.name ++ "' is already claimed by '" ++ owner.name ++ "'")

/-- The report is at the property and names the first property before it that claims its tag. -/
def BlamesFirstOwner (v : Vocabulary) (earlier : List Property) (p : Property) (d : Diagnostic) : Prop :=
  d.location = p.location ∧
    ∃ tag before owner after, p.explicitTag? v = some tag ∧ earlier = before ++ owner :: after ∧
      owner.explicitTag? v = some tag ∧ (∀ q ∈ before, q.explicitTag? v ≠ some tag) ∧
      d.message =
        "Tag " ++ toString tag ++ " on property '" ++ p.name ++ "' is already claimed by '" ++ owner.name ++ "'"

variable {v : Vocabulary} {p : Property} {earlier : List Property}

theorem explicitTag?_eq_some_iff {tag : Nat} :
    p.explicitTag? v = some tag ↔ p.marker v = .explicit (some tag) := by
  rw [explicitTag?]
  cases p.marker v <;> simp

theorem isSome_tagReport?_iff :
    (p.tagReport? v earlier).isSome ↔
      ∃ tag, p.explicitTag? v = some tag ∧ ∃ q ∈ earlier, q.explicitTag? v = some tag := by
  rw [tagReport?]
  cases p.explicitTag? v with
  | none => simp
  | some tag => simp

theorem blamesFirstOwner_of_tagReport? {d : Diagnostic} (h : p.tagReport? v earlier = some d) :
    p.BlamesFirstOwner v earlier d := by
  rw [tagReport?] at h
  split at h
  · cases h
  · next tag htag =>
      obtain ⟨owner, howner, rfl⟩ := Option.map_eq_some_iff.mp h
      obtain ⟨hclaims, before, after, heq, hbefore⟩ := List.find?_eq_some_iff_append.mp howner
      refine ⟨rfl, tag, before, owner, after, htag, heq, by simpa using hclaims, fun q hq => ?_, rfl⟩
      simpa using hbefore q hq

end Property

namespace TypeNode

variable {v : Vocabulary} {node : TypeNode}

open Earlier Property

theorem tagReport?_of_records {earlier : List Property} {claimed : List (Nat × String)}
    (h : Records (explicitTag? v) (·.name) earlier claimed) {p : Property} {tag : Nat}
    (htag : p.explicitTag? v = some tag) :
    p.tagReport? v earlier = (claimed.lookup tag).map fun owner =>
      Rule.duplicateTag.diagnostic p.location
        ("Tag " ++ toString tag ++ " on property '" ++ p.name ++ "' is already claimed by '" ++ owner ++ "'") := by
  rw [tagReport?, htag, h tag, Option.map_map]
  rfl

theorem repeatedTags_eq_reports {earlier : List Property} {claimed : List (Nat × String)} (ps : List Property)
    (h : Records (explicitTag? v) (·.name) earlier claimed) :
    repeatedTags v claimed ps = reports (fun before => tagReport? v (earlier ++ before)) ps := by
  induction ps generalizing earlier claimed with
  | nil => rfl
  | cons p ps ih =>
      rw [reports_append_cons, repeatedTags]
      split
      · next tag hmarker =>
          have htag := explicitTag?_eq_some_iff.mpr hmarker
          rw [tagReport?_of_records h htag]
          cases howner : claimed.lookup tag with
          | some owner => exact congrArg (_ :: ·) (ih (h.known htag howner))
          | none => exact ih (h.insert htag howner)
      · next hmarker =>
          have htag : p.explicitTag? v = none := by
            rw [Option.eq_none_iff_forall_ne_some]
            exact fun tag htag => hmarker tag (explicitTag?_eq_some_iff.mp htag)
          rw [tagReport?, htag]
          exact ih (h.skip htag)

theorem duplicateTags_eq (v : Vocabulary) (node : TypeNode) :
    node.duplicateTags v = if hasContract v node.decl.attributes then
      reports (tagReport? v) (node.decl.properties.filter (!·.isStatic)) else [] := by
  rw [duplicateTags, repeatedTags_eq_reports _ (.nil _ _)]
  rfl

theorem nodup_explicitTags {ps : List Property} (h : reports (tagReport? v) ps = []) :
    (ps.filterMap (explicitTag? v)).Nodup := by
  refine nodup_of_reports_eq_nil (fun earlier p tag htag hmem => ?_) h
  obtain ⟨q, hq, hqtag⟩ := List.mem_filterMap.mp hmem
  exact isSome_tagReport?_iff.mpr ⟨tag, htag, q, hq, hqtag⟩

theorem nodup_tags {g : Graph} (h : reports (tagReport? v) (node.decl.properties.filter (!·.isStatic)) = []) :
    ((node.decl.properties.filter (!·.isStatic)).filterMap (explicitTag? v) ++
      (node.analysis g v).members.map (·.tag)).Nodup := by
  have hfirst : FirstTags (node.decl.IsFreeTag v) ((node.analysis g v).members.map (·.tag)) := firstTags_members
  refine List.nodup_append.mpr ⟨nodup_explicitTags h, hfirst.ascending.imp Nat.ne_of_lt, ?_⟩
  rintro tag hclaimed _ hfree rfl
  obtain ⟨p, hp, htag⟩ := List.mem_filterMap.mp hclaimed
  obtain ⟨hp, hstatic⟩ := List.mem_filter.mp hp
  exact (hfirst.allFree tag hfree).2 p hp (by simpa using hstatic) (explicitTag?_eq_some_iff.mp htag)

end TypeNode

namespace Graph

open Earlier Property

/-- Of the tags that the properties of a contract type claim, exactly those are reported that a property before
claims already. A type that nothing is reported of has all its tags once, those given out to its members
included. -/
theorem tags_unique_unless_reported {types : List DeclTree} {g : Graph} (hg : ofTypes types = .ok g)
    (settings : Settings) :
    ((g.diagnostics settings).filter (·.rule == .duplicateTag)).Perm
      ((g.nodes.filter fun node => hasContract settings.vocabulary node.decl.attributes).flatMap fun node =>
        reports (tagReport? settings.vocabulary) (node.decl.properties.filter (!·.isStatic))) ∧
    (∀ earlier p, ((tagReport? settings.vocabulary earlier p).isSome ↔
        ∃ tag, p.explicitTag? settings.vocabulary = some tag ∧
          ∃ q ∈ earlier, q.explicitTag? settings.vocabulary = some tag) ∧
      ∀ d, tagReport? settings.vocabulary earlier p = some d →
        p.BlamesFirstOwner settings.vocabulary earlier d) ∧
    ∀ node ∈ g.roots settings.vocabulary, node.decl.properties.length ≤ 2 ^ 31 - 1 →
      reports (tagReport? settings.vocabulary) (node.decl.properties.filter (!·.isStatic)) = [] →
      ∀ d, node.DescribedAs g settings.vocabulary d → d.FitsWord ∧
        ((node.decl.properties.filter (!·.isStatic)).filterMap (explicitTag? settings.vocabulary) ++
          d.members.map (·.tag)).Nodup := by
  refine ⟨?_, fun _ _ => ⟨isSome_tagReport?_iff, fun _ => blamesFirstOwner_of_tagReport?⟩,
    fun node hnode hcount hreports d hd => ?_⟩
  · rw [← flatMap_ite]
    simp only [← TypeNode.duplicateTags_eq]
    exact perm_share hg .duplicateTag
  · obtain ⟨heads, rfl⟩ := hd.exists_heads (List.mem_filter.mp hnode).2
    exact ⟨TypeNode.fitsWord_descriptor hcount heads, TypeNode.nodup_tags hreports⟩

theorem tags_unique_unless_reported_order :
    ofTypes Sample.types = .ok Sample.graph ∧ Sample.orderNode ∈ Sample.graph.roots {} ∧
      Sample.orderNode.decl.properties.length ≤ 2 ^ 31 - 1 ∧
      reports (tagReport? {}) (Sample.order.properties.filter (!·.isStatic)) = [] ∧
      ∃ d, Sample.orderNode.DescribedAs Sample.graph {} d ∧ d.FitsWord ∧
        ((Sample.order.properties.filter (!·.isStatic)).filterMap (explicitTag? {}) ++
          d.members.map (·.tag)).Nodup ∧
        (Sample.order.properties.filter (!·.isStatic)).filterMap (explicitTag? {}) = [3] ∧
        d.members.map (·.tag) = [1, 2, 4, 5] := by
  have hcount : Sample.orderNode.decl.properties.length ≤ 2 ^ 31 - 1 := by decide
  have hreports : reports (tagReport? {}) (Sample.order.properties.filter (!·.isStatic)) = [] := by decide +kernel
  obtain ⟨heads, hd⟩ := TypeNode.exists_describedAs Sample.isRoot_order Sample.kind_ne_enum
  obtain ⟨-, -, hunique⟩ := tags_unique_unless_reported Sample.ofTypes_types {}
  obtain ⟨hfits, hnodup⟩ := hunique Sample.orderNode Sample.orderNode_mem_roots hcount hreports _ hd
  exact ⟨Sample.ofTypes_types, Sample.orderNode_mem_roots, hcount, hreports, _, hd, hfits, hnodup,
    by decide +kernel, Sample.tags_members⟩

end Graph

end WireShadow
