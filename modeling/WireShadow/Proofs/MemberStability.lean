import WireShadow.Proofs.Marker
import WireShadow.Proofs.Revision

namespace WireShadow

/-- The graph of the same declarations, of which one type is given other properties. -/
def Graph.IsRevision (types : List DeclTree) (node : TypeNode) (ps : List Property) (g' : Graph) : Prop :=
  Graph.ofTypes (DeclTree.reviseAll node.id ps 0 types) = .ok g' ∧
    g'.node? node.id = some (node.withProperties ps)

theorem Graph.isRevision_revise {types : List DeclTree} {g : Graph} (hg : ofTypes types = .ok g)
    {node : TypeNode} (hnode : node ∈ g.nodes) (ps : List Property) :
    IsRevision types node ps (g.revise node.id ps) := by
  refine ⟨ofTypes_revise hg, ?_⟩
  rw [node?_revise, node?_of_mem hg hnode, Option.map_some, TypeNode.revise_self]

theorem Member.zipWith_withTag_isPrefix {ms ms' : List Member} {tags tags' : List Nat}
    (hlen : ms.length = tags.length) (hms : ms <+: ms') (htags : tags <+: tags') :
    List.zipWith withTag ms tags <+: List.zipWith withTag ms' tags' := by
  obtain ⟨ms, rfl⟩ := hms
  obtain ⟨tags, rfl⟩ := htags
  rw [List.zipWith_append hlen]
  exact List.prefix_append _ _

namespace Sample

def appended : List Property := [property "Older" number (tagged 6), property "Tax" number []]

theorem marker_appended_ne : ∀ p ∈ appended, ∀ t ∈ [1, 2, 4, 5], p.marker {} ≠ .explicit (some t) := by
  decide +kernel

end Sample

namespace TypeNode

open Sample

variable {g : Graph} {v : Vocabulary} {node : TypeNode}

theorem members_eq_zipWith (g : Graph) (v : Vocabulary) (node : TypeNode) :
    (node.analysis g v).members =
      List.zipWith Member.withTag (node.shadows g v) ((node.analysis g v).members.map (·.tag)) := by
  rw [map_tag_members]
  exact members_analysis

theorem length_tags_members : (node.shadows g v).length = ((node.analysis g v).members.map (·.tag)).length := by
  rw [map_tag_members, length_assignTags]

theorem shadows_withProperties (id : Nat) (ps ps' : List Property) :
    (node.withProperties ps').shadows (g.revise id ps) v =
      ps'.flatMap (·.shadows g v (node.decl.customAttribute v)) := by
  rw [shadows]
  simp only [Graph.shadows_revise]
  rfl

theorem exists_describedAs_revise (hroot : node.decl.isRoot v)
    (hkind : ∀ e ∈ node :: g.enclosing node, e.decl.kind ≠ .enum) (ps : List Property) :
    ∃ heads, (node.withProperties ps).DescribedAs (g.revise node.id ps) v
      (((node.withProperties ps).analysis (g.revise node.id ps) v).descriptor heads) := by
  refine exists_describedAs hroot fun e he => ?_
  rw [Graph.enclosing_revise] at he
  rcases List.mem_cons.mp he with rfl | he
  · exact hkind node List.mem_cons_self
  · obtain ⟨outer, houter, rfl⟩ := List.mem_map.mp he
    exact hkind outer (List.mem_cons_of_mem _ houter)

theorem tag_lt_of_mem_members (hcount : node.decl.properties.length ≤ 2 ^ 31 - 1) {m : Member}
    (hm : m ∈ (node.analysis g v).members) : m.tag < UInt32.size := by
  have ht : m.tag ∈ (node.analysis g v).members.map (·.tag) := List.mem_map_of_mem hm
  rw [map_tag_members] at ht
  have hlt := ((((TagAllocator.mk (node.analysis g v).claimed 1).run_allocateMany
    (node.shadows g v).length).mem_iff m.tag).mp ht).2.1
  exact Nat.lt_trans hlt (next_allocateMany_lt hcount)

theorem shadows_isPrefix_of_append (extra : List Property) :
    node.shadows g v <+: (node.withProperties (node.decl.properties ++ extra)).shadows
      (g.revise node.id (node.decl.properties ++ extra)) v := by
  rw [shadows_withProperties, List.flatMap_append]
  exact List.prefix_append _ _

theorem tags_isPrefix_of_append {extra : List Property}
    (hclear : ∀ p ∈ extra, p.isStatic = false →
      ∀ m ∈ (node.analysis g v).members, p.marker v ≠ .explicit (some m.tag)) :
    (node.analysis g v).members.map (·.tag) <+:
      ((node.withProperties (node.decl.properties ++ extra)).analysis
        (g.revise node.id (node.decl.properties ++ extra)) v).members.map (·.tag) := by
  let node' := node.withProperties (node.decl.properties ++ extra)
  have hfree : ∀ t, node'.decl.IsFreeTag v t → node.decl.IsFreeTag v t := fun t ht =>
    ⟨ht.1, fun p hp => ht.2 p (List.mem_append_left _ hp)⟩
  have hkept : ∀ t ∈ (node.analysis g v).members.map (·.tag), node'.decl.IsFreeTag v t := by
    intro t ht
    obtain ⟨hpos, hold⟩ := firstTags_members.allFree t ht
    refine ⟨hpos, fun p hp hstatic => ?_⟩
    rcases List.mem_append.mp hp with hp | hp
    · exact hold p hp hstatic
    · obtain ⟨m, hm, rfl⟩ := List.mem_map.mp ht
      exact hclear p hp hstatic m hm
  refine (firstTags_members.mono hfree hkept).isPrefix firstTags_members ?_
  rw [← length_tags_members, ← length_tags_members]
  exact (shadows_isPrefix_of_append extra).length_le

/-- Properties that are appended leave all members in place, unless they claim one of their tags. -/
theorem members_isPrefix_of_append {types : List DeclTree} (hg : Graph.ofTypes types = .ok g)
    (hnode : node ∈ g.nodes) (hroot : node.decl.isRoot v)
    (hkind : ∀ e ∈ node :: g.enclosing node, e.decl.kind ≠ .enum) (extra : List Property)
    (hcount : (node.decl.properties ++ extra).length ≤ 2 ^ 31 - 1) :
    ∃ d, node.DescribedAs g v d ∧ d.FitsWord ∧
      ((∀ p ∈ extra, p.isStatic = false → ∀ m ∈ d.members, p.marker v ≠ .explicit (some m.tag)) →
        ∃ g' d', Graph.IsRevision types node (node.decl.properties ++ extra) g' ∧
          (node.withProperties (node.decl.properties ++ extra)).DescribedAs g' v d' ∧ d'.FitsWord ∧
          d.members <+: d'.members) := by
  obtain ⟨heads, hd⟩ := exists_describedAs hroot hkind
  have hlen : node.decl.properties.length ≤ 2 ^ 31 - 1 := by
    rw [List.length_append] at hcount
    omega
  refine ⟨_, hd, fitsWord_descriptor hlen heads, fun hclear => ?_⟩
  obtain ⟨heads', hd'⟩ := exists_describedAs_revise hroot hkind (node.decl.properties ++ extra)
  refine ⟨_, _, Graph.isRevision_revise hg hnode _, hd', fitsWord_descriptor hcount heads', ?_⟩
  have hmembers := Member.zipWith_withTag_isPrefix length_tags_members (shadows_isPrefix_of_append extra)
    (tags_isPrefix_of_append hclear)
  rw [← members_eq_zipWith, ← members_eq_zipWith] at hmembers
  exact hmembers

theorem members_isPrefix_of_append_order :
    Graph.ofTypes types = .ok graph ∧ orderNode ∈ graph.nodes ∧ orderNode.decl.isRoot {} ∧
      (∀ e ∈ orderNode :: graph.enclosing orderNode, e.decl.kind ≠ .enum) ∧
      (order.properties ++ appended).length ≤ 2 ^ 31 - 1 ∧
      ∃ d g' d', orderNode.DescribedAs graph {} d ∧
        Graph.IsRevision types orderNode (order.properties ++ appended) g' ∧
        (orderNode.withProperties (order.properties ++ appended)).DescribedAs g' {} d' ∧
        d.members <+: d'.members := by
  have hcount : (orderNode.decl.properties ++ appended).length ≤ 2 ^ 31 - 1 := by decide
  refine ⟨ofTypes_types, orderNode_mem, isRoot_order, kind_ne_enum, hcount, ?_⟩
  obtain ⟨d, hd, -, happend⟩ :=
    members_isPrefix_of_append ofTypes_types orderNode_mem isRoot_order kind_ne_enum appended hcount
  have hclear : ∀ p ∈ appended, p.isStatic = false →
      ∀ m ∈ d.members, p.marker {} ≠ .explicit (some m.tag) := by
    intro p hp _ m hm
    refine marker_appended_ne p hp m.tag ?_
    rw [hd.members_eq isRoot_order kind_ne_enum] at hm
    rw [← tags_members]
    exact List.mem_map_of_mem hm
  obtain ⟨g', d', hg', hd', -, hmembers⟩ := happend hclear
  exact ⟨d, g', d', hd, hg', hd', hmembers⟩

theorem isFreeTag_freeze {before after : List Property} {p p' : Property}
    (hps : node.decl.properties = before ++ p :: after) {t : Nat} (hp : p.marker v = .untagged)
    (hstatic : p'.isStatic = false) (hp' : p'.marker v = .explicit (some t)) (u : Nat) :
    (node.withProperties (before ++ p' :: after)).decl.IsFreeTag v u ↔ node.decl.IsFreeTag v u ∧ u ≠ t := by
  have hbetween (q : Property) : q ∈ node.decl.properties ↔ q = p ∨ q ∈ before ++ after := by
    rw [hps, List.mem_append, List.mem_cons, List.mem_append]
    exact or_left_comm
  have hbetween' (q : Property) :
      q ∈ (node.withProperties (before ++ p' :: after)).decl.properties ↔ q = p' ∨ q ∈ before ++ after := by
    change q ∈ before ++ p' :: after ↔ _
    rw [List.mem_append, List.mem_cons, List.mem_append]
    exact or_left_comm
  simp only [TypeDecl.IsFreeTag, hbetween, hbetween', forall_eq_or_imp, hp, hp', hstatic]
  simp only [ne_eq, reduceCtorEq, not_false_eq_true, implies_true, true_and, forall_const,
    TagMarker.explicit.injEq, Option.some.injEq]
  constructor
  · rintro ⟨hpos, hne, hrest⟩
    exact ⟨⟨hpos, hrest⟩, fun h => hne h.symm⟩
  · rintro ⟨⟨hpos, hrest⟩, hne⟩
    exact ⟨hpos, fun h => hne h.symm, hrest⟩

theorem exists_members_split {before after : List Property} {p : Property} {m : Member}
    (hps : node.decl.properties = before ++ p :: after)
    (hp : p.shadows g v (node.decl.customAttribute v) = [m]) :
    ∃ ts t us, (node.analysis g v).members.map (·.tag) = ts ++ t :: us ∧
      (before.flatMap (·.shadows g v (node.decl.customAttribute v))).length = ts.length ∧
      (after.flatMap (·.shadows g v (node.decl.customAttribute v))).length = us.length ∧
      (node.analysis g v).members =
        List.zipWith Member.withTag (before.flatMap (·.shadows g v (node.decl.customAttribute v))) ts ++
          m.withTag t ::
            List.zipWith Member.withTag (after.flatMap (·.shadows g v (node.decl.customAttribute v))) us := by
  let front := before.flatMap (·.shadows g v (node.decl.customAttribute v))
  let back := after.flatMap (·.shadows g v (node.decl.customAttribute v))
  let tags := (node.analysis g v).members.map (·.tag)
  have hshadows : node.shadows g v = front ++ m :: back := by
    rw [shadows, hps, List.flatMap_append, List.flatMap_cons, hp]
    rfl
  have hlen : (front ++ m :: back).length = tags.length := by
    rw [← hshadows]
    exact length_tags_members
  rw [List.length_append, List.length_cons] at hlen
  have hts : front.length = (tags.take front.length).length := by
    rw [List.length_take]
    omega
  obtain ⟨t, us, hdrop⟩ : ∃ t us, tags.drop front.length = t :: us := by
    refine List.exists_cons_of_length_pos ?_
    rw [List.length_drop]
    omega
  have htags : tags = tags.take front.length ++ t :: us := by
    rw [← hdrop, List.take_append_drop]
  have hus : back.length = us.length := by
    have := congrArg List.length hdrop
    rw [List.length_drop, List.length_cons] at this
    omega
  refine ⟨tags.take front.length, t, us, htags, hts, hus, ?_⟩
  rw [members_eq_zipWith, hshadows]
  change List.zipWith Member.withTag _ tags = _
  conv_lhs => rw [htags]
  rw [List.zipWith_append hts, List.zipWith_cons_cons]

theorem shadows_of_plain {p : Property} {isInitOnly : Bool} (h : p.verdict g v = .generate .plain isInitOnly)
    (custom : Option String) : ∃ m, p.shadows g v custom = [m] := by
  rw [Property.shadows, h]
  exact ⟨_, rfl⟩

theorem shadows_of_skipped {p : Property} {tag : Option Nat} (h : p.verdict g v = .skipped tag)
    (custom : Option String) : p.shadows g v custom = [] := by
  rw [Property.shadows, h]

theorem shadows_freeze {before after : List Property} {p' : Property} {tag : Option Nat}
    (hskipped : p'.verdict g v = .skipped tag) :
    (node.withProperties (before ++ p' :: after)).shadows (g.revise node.id (before ++ p' :: after)) v =
      before.flatMap (·.shadows g v (node.decl.customAttribute v)) ++
        after.flatMap (·.shadows g v (node.decl.customAttribute v)) := by
  rw [shadows_withProperties, List.flatMap_append, List.flatMap_cons, shadows_of_skipped hskipped]
  rfl

theorem tags_freeze {before after : List Property} {p p' : Property}
    (hps : node.decl.properties = before ++ p :: after) {ts us : List Nat} {t : Nat}
    (htags : (node.analysis g v).members.map (·.tag) = ts ++ t :: us)
    (hts : (before.flatMap (·.shadows g v (node.decl.customAttribute v))).length = ts.length)
    (hus : (after.flatMap (·.shadows g v (node.decl.customAttribute v))).length = us.length)
    (hp : p.marker v = .untagged) (hp' : p'.marker v = .explicit (some t)) (hstatic : p'.isStatic = false) :
    ((node.withProperties (before ++ p' :: after)).analysis
      (g.revise node.id (before ++ p' :: after)) v).members.map (·.tag) = ts ++ us := by
  have hfirst : FirstTags (node.decl.IsFreeTag v) (ts ++ t :: us) := htags ▸ firstTags_members
  have hfirst' : FirstTags ((node.withProperties (before ++ p' :: after)).decl.IsFreeTag v) (ts ++ us) := by
    have hfree := isFreeTag_freeze hps hp hstatic hp'
    exact hfirst.erase.mono (fun u => (hfree u).mp) fun u hu => (hfree u).mpr (hfirst.erase.allFree u hu)
  have hskipped : p'.verdict g v = .skipped (some t) := Property.verdict_eq_skipped_iff.mpr ⟨hstatic, hp'⟩
  refine firstTags_members.eq_of_length hfirst' ?_
  rw [← length_tags_members, shadows_freeze hskipped, List.length_append, List.length_append, hts, hus]

/-- A plain property whose tag is made explicit leaves the members of its type, and the others stay as
they are. -/
theorem members_erase_of_freeze {types : List DeclTree} (hg : Graph.ofTypes types = .ok g)
    (hnode : node ∈ g.nodes) (hroot : node.decl.isRoot v)
    (hkind : ∀ e ∈ node :: g.enclosing node, e.decl.kind ≠ .enum)
    (hcount : node.decl.properties.length ≤ 2 ^ 31 - 1) {before after : List Property} {p : Property}
    (hps : node.decl.properties = before ++ p :: after) {isInitOnly : Bool}
    (hverdict : p.verdict g v = .generate .plain isInitOnly) (position : Nat) (named : NamedArguments) :
    ∃ d front m back, node.DescribedAs g v d ∧ d.FitsWord ∧ d.members = front ++ m :: back ∧
      front.map (·.withTag 0) = before.flatMap (·.shadows g v (node.decl.customAttribute v)) ∧
      [m.withTag 0] = p.shadows g v (node.decl.customAttribute v) ∧
      ∃ g' d', Graph.IsRevision types node (before ++ p.freeze v position named m.tag :: after) g' ∧
        (p.freeze v position named m.tag).verdict g' v = .skipped (some m.tag) ∧
        (node.withProperties (before ++ p.freeze v position named m.tag :: after)).DescribedAs g' v d' ∧
        d'.FitsWord ∧ d'.members = front ++ back := by
  obtain ⟨heads, hd⟩ := exists_describedAs hroot hkind
  obtain ⟨hstatic, huntagged, -⟩ := Property.verdict_eq_generate_iff.mp hverdict
  obtain ⟨s, hs⟩ := shadows_of_plain hverdict (node.decl.customAttribute v)
  obtain ⟨ts, t, us, htags, hts, hus, hmembers⟩ := exists_members_split hps hs
  refine ⟨_, _, s.withTag t, _, hd, fitsWord_descriptor hcount heads, hmembers, ?_, ?_, ?_⟩
  · rw [Member.map_withTag_zipWith hts, Property.map_withTag_flatMap_shadows]
  · rw [← Property.map_withTag_shadows g v (node.decl.customAttribute v) p, hs]
    rfl
  have hm : s.withTag t ∈ (node.analysis g v).members := by
    rw [hmembers]
    exact List.mem_append_right _ List.mem_cons_self
  have hpos : 1 ≤ t := (firstTags_members.allFree t (List.mem_map_of_mem hm)).1
  have hmarker : (p.freeze v position named t).marker v = .explicit (some t) :=
    Property.marker_freeze huntagged position named hpos (tag_lt_of_mem_members hcount hm)
  have hskipped (g' : Graph) : (p.freeze v position named t).verdict g' v = .skipped (some t) :=
    Property.verdict_eq_skipped_iff.mpr ⟨hstatic, hmarker⟩
  have hcount' : (before ++ p.freeze v position named t :: after).length ≤ 2 ^ 31 - 1 := by
    rw [hps] at hcount
    simpa using hcount
  obtain ⟨heads', hd'⟩ := exists_describedAs_revise hroot hkind (before ++ p.freeze v position named t :: after)
  refine ⟨_, _, Graph.isRevision_revise hg hnode _, hskipped _, hd', fitsWord_descriptor hcount' heads', ?_⟩
  have htags' := tags_freeze hps htags hts hus huntagged hmarker hstatic
  change RootAnalysis.members _ = _
  rw [members_eq_zipWith, shadows_freeze (hskipped g), htags', List.zipWith_append hts]

theorem members_erase_of_freeze_order :
    Graph.ofTypes types = .ok graph ∧ orderNode ∈ graph.nodes ∧ orderNode.decl.isRoot {} ∧
      (∀ e ∈ orderNode :: graph.enclosing orderNode, e.decl.kind ≠ .enum) ∧
      order.properties.length ≤ 2 ^ 31 - 1 ∧
      order.properties = order.properties.take 1 ++ property "Id" number [] :: order.properties.drop 2 ∧
      (property "Id" number []).verdict graph {} = .generate .plain false ∧
      ∃ d front m back, orderNode.DescribedAs graph {} d ∧ d.members = front ++ m :: back ∧
        [m.withTag 0] = (property "Id" number []).shadows graph {} (order.customAttribute {}) ∧
        ∃ g' d', Graph.IsRevision types orderNode (order.properties.take 1 ++
            (property "Id" number []).freeze {} 0 {} m.tag :: order.properties.drop 2) g' ∧
          ((property "Id" number []).freeze {} 0 {} m.tag).verdict g' {} = .skipped (some m.tag) ∧
          (orderNode.withProperties (order.properties.take 1 ++
            (property "Id" number []).freeze {} 0 {} m.tag :: order.properties.drop 2)).DescribedAs g' {} d' ∧
          d'.members = front ++ back := by
  have hcount : orderNode.decl.properties.length ≤ 2 ^ 31 - 1 := by decide
  have hsplit : orderNode.decl.properties =
      order.properties.take 1 ++ property "Id" number [] :: order.properties.drop 2 := rfl
  have hverdict : (property "Id" number []).verdict graph {} = .generate .plain false := by decide +kernel
  refine ⟨ofTypes_types, orderNode_mem, isRoot_order, kind_ne_enum, hcount, hsplit, hverdict, ?_⟩
  obtain ⟨d, front, m, back, hd, -, hmembers, -, hm, g', d', hg', hskipped, hd', -, hmembers'⟩ :=
    members_erase_of_freeze ofTypes_types orderNode_mem isRoot_order kind_ne_enum hcount hsplit hverdict 0 {}
  exact ⟨d, front, m, back, hd, hmembers, hm, g', d', hg', hskipped, hd', hmembers'⟩

end TypeNode

end WireShadow
