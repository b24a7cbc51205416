import WireShadow.Proofs.MemberTags
import WireShadow.Proofs.RuleReports

namespace WireShadow

theorem TypeDecl.includes_iff {v : Vocabulary} {decl : TypeDecl} {derived : String} :
    decl.includes v derived ↔
      hasContract v decl.attributes ∧ ∃ inclusion ∈ decl.inclusions v, inclusion.derived = some derived := by
  simp [includes]

namespace TypeNode

section Chain

variable (g : Graph) (v : Vocabulary) (node : TypeNode)

/-- The types on the way up from a type, with itself as the first. The next one is what the base of the one before
resolves to. -/
def ancestor? : Nat → Option TypeNode
  | 0 => some node
  | i + 1 => (ancestor? i).bind fun ancestor => (ancestor.decl.baseType.map TypeName.normalize).bind g.lookup

/-- The names on the way up: that of the type, its base, the base of what this one resolves to, and so on. -/
def chain? : Nat → Option String
  | 0 => some node.qualifiedName
  | i + 1 => (node.ancestor? g i).bind (·.decl.baseType.map TypeName.normalize)

/-- The way ends without a report behind so many bases: there is no other one, or it is universal, or its name was on
the way before. -/
def EndsAt (i : Nat) : Prop :=
  ∀ base, node.chain? g (i + 1) = some base → base ∈ universalBases ∨ ∃ j ≤ i, node.chain? g j = some base

def LinkedAt (i : Nat) : Prop :=
  ∃ base derived ancestor, node.chain? g (i + 1) = some base ∧ node.chain? g i = some derived ∧
    g.lookup base = some ancestor ∧ hasContract v ancestor.decl.attributes ∧
    ∃ inclusion ∈ ancestor.decl.inclusions v, inclusion.derived = some derived

/-- So many bases are walked past, and the one behind them is looked at if there is one. -/
def GoesOnTo (i : Nat) : Prop := ∀ j < i, ¬node.EndsAt g j ∧ node.LinkedAt g v j

/-- The first base on the way that is not linked, with the name that it should include. -/
structure BreaksAt (i : Nat) (base derived : String) : Prop where
  goesOn : node.GoesOnTo g v i
  notEnds : ¬node.EndsAt g i
  notLinked : ¬node.LinkedAt g v i
  base : node.chain? g (i + 1) = some base
  derived : node.chain? g i = some derived

def HasSeen (visited : List String) (i : Nat) : Prop :=
  ∀ name, name ∈ visited ↔ ∃ j ≤ i, node.chain? g j = some name

def baseReport? : Option Diagnostic :=
  (brokenLink g v (g.size + 1) [node.qualifiedName] node.qualifiedName
    (node.decl.baseType.map TypeName.normalize)).map fun (base, derived) =>
      Rule.baseNotChained.diagnostic node.decl.location
        ("Base type '" ++ base ++ "' must be marked with the contract attribute and include '" ++
          derived ++ "'")

theorem baseChain_eq : node.baseChain g v = (node.baseReport? g v).toList := by
  rw [baseChain, baseReport?]
  split
  · next hnone => rw [hnone]; rfl
  · next base derived hsome => rw [hsome]; rfl

theorem ancestor?_succ (i : Nat) : node.ancestor? g (i + 1) = (node.chain? g (i + 1)).bind g.lookup :=
  (Option.bind_assoc _ _ _).symm

end Chain

variable {g : Graph} {v : Vocabulary} {node : TypeNode} {i : Nat}

theorem GoesOnTo.succ (h : node.GoesOnTo g v i) (hends : ¬node.EndsAt g i) (hlinked : node.LinkedAt g v i) :
    node.GoesOnTo g v (i + 1) := by
  intro j hj
  rcases Nat.lt_succ_iff_lt_or_eq.mp hj with hj | rfl
  · exact h j hj
  · exact ⟨hends, hlinked⟩

theorem LinkedAt.exists_ancestor (h : node.LinkedAt g v i) :
    ∃ ancestor, node.ancestor? g (i + 1) = some ancestor := by
  obtain ⟨base, derived, ancestor, hbase, -, hlookup, -⟩ := h
  exact ⟨ancestor, by rw [ancestor?_succ, hbase]; exact hlookup⟩

theorem mem_nodes_of_ancestor? (hnode : node ∈ g.nodes) {ancestor : TypeNode}
    (h : node.ancestor? g i = some ancestor) : ancestor ∈ g.nodes := by
  cases i with
  | zero =>
      cases h
      exact hnode
  | succ i =>
      rw [ancestor?_succ] at h
      obtain ⟨base, -, hlookup⟩ := Option.bind_eq_some_iff.mp h
      exact Graph.mem_of_lookup hlookup

theorem GoesOnTo.ancestor?_ne (h : node.GoesOnTo g v i) {j k : Nat} (hjk : j < k) (hk : k < i) :
    node.ancestor? g j ≠ node.ancestor? g k := by
  intro heq
  have hchain : node.chain? g (j + 1) = node.chain? g (k + 1) := by rw [chain?, chain?, heq]
  exact (h k hk).1 fun base hbase => .inr ⟨j + 1, hjk, hchain.trans hbase⟩

/-- The walk ends at the latest behind as many bases as there are types. Two names can resolve to one type, so the
names alone do not bound it. -/
theorem GoesOnTo.le_size (hnode : node ∈ g.nodes) (h : node.GoesOnTo g v i) : i ≤ g.size := by
  -- The types before the last base are all different, and all of them are in the graph.
  have hnodup : ((List.range i).map (node.ancestor? g)).Nodup := by
    refine List.pairwise_map.mpr (List.pairwise_lt_range.imp_of_mem fun _ hk hjk => ?_)
    exact h.ancestor?_ne hjk (List.mem_range.mp hk)
  have hsub : (List.range i).map (node.ancestor? g) ⊆ g.nodes.map some := by
    intro o ho
    obtain ⟨j, hj, rfl⟩ := List.mem_map.mp ho
    have hancestor : ∃ ancestor, node.ancestor? g j = some ancestor := by
      cases j with
      | zero => exact ⟨node, rfl⟩
      | succ j => exact (h j (Nat.lt_of_succ_lt (List.mem_range.mp hj))).2.exists_ancestor
    obtain ⟨ancestor, hancestor⟩ := hancestor
    rw [hancestor]
    exact List.mem_map_of_mem (mem_nodes_of_ancestor? hnode hancestor)
  simpa [Graph.size] using hnodup.length_le_of_subset hsub

theorem goesOnTo_zero : node.GoesOnTo g v 0 := fun _ h => absurd h (Nat.not_lt_zero _)

theorem exists_stop (hnode : node ∈ g.nodes) :
    ∃ i, node.GoesOnTo g v i ∧ (node.EndsAt g i ∨ ¬node.LinkedAt g v i) := by
  by_contra hnone
  push Not at hnone
  have hall (i : Nat) : node.GoesOnTo g v i := by
    induction i with
    | zero => exact goesOnTo_zero
    | succ i ih => exact ih.succ (hnone i ih).1 (hnone i ih).2
  exact Nat.not_succ_le_self g.size ((hall (g.size + 1)).le_size hnode)

theorem BreaksAt.not_endsAt {k : Nat} {base derived : String} (h : node.BreaksAt g v k base derived) (hik : i ≤ k) :
    ¬node.EndsAt g i := by
  rcases Nat.lt_or_eq_of_le hik with hlt | rfl
  · exact (h.goesOn i hlt).1
  · exact h.notEnds

theorem BreaksAt.eq_of_not_linkedAt {k : Nat} {base derived : String} (h : node.BreaksAt g v k base derived)
    (hik : i ≤ k) (hlinked : ¬node.LinkedAt g v i) : k = i := by
  by_contra hne
  exact hlinked (h.goesOn i (Nat.lt_of_le_of_ne hik (Ne.symm hne))).2

theorem linkedAt_iff {base derived : String} (hbase : node.chain? g (i + 1) = some base)
    (hderived : node.chain? g i = some derived) :
    node.LinkedAt g v i ↔ ∃ ancestor, g.lookup base = some ancestor ∧ ancestor.decl.includes v derived := by
  simp [LinkedAt, hbase, hderived, TypeDecl.includes_iff]

section Walk

variable {visited : List String} {derived : String} {link : String × String}

theorem brokenLink_of_endsAt (steps : Nat)
    (hvisited : node.HasSeen g visited i) (hends : node.EndsAt g i) :
    brokenLink g v steps visited derived (node.chain? g (i + 1)) = none := by
  cases steps with
  | zero => rfl
  | succ steps =>
      cases hbase : node.chain? g (i + 1) with
      | none => rfl
      | some base =>
          have hstop : base ∈ universalBases ∨ base ∈ visited := by
            rw [hvisited base]
            exact hends base hbase
          rw [brokenLink, if_pos (by simpa using hstop)]

theorem exists_base_of_not_endsAt (hvisited : node.HasSeen g visited i)
    (hends : ¬node.EndsAt g i) :
    ∃ base, node.chain? g (i + 1) = some base ∧ ¬(base ∈ universalBases || base ∈ visited) = true := by
  rw [EndsAt] at hends
  push Not at hends
  obtain ⟨base, hbase, huniversal, hfresh⟩ := hends
  exact ⟨base, hbase, by simpa [huniversal, hvisited base] using hfresh⟩

theorem brokenLink_of_not_linkedAt (steps : Nat)
    (hvisited : node.HasSeen g visited i)
    (hderived : node.chain? g i = some derived) (hends : ¬node.EndsAt g i) (hlinked : ¬node.LinkedAt g v i) :
    ∃ base, node.chain? g (i + 1) = some base ∧
      brokenLink g v (steps + 1) visited derived (node.chain? g (i + 1)) = some (base, derived) := by
  obtain ⟨base, hbase, hopen⟩ := exists_base_of_not_endsAt hvisited hends
  refine ⟨base, hbase, ?_⟩
  rw [hbase, brokenLink, if_neg hopen]
  rw [linkedAt_iff hbase hderived] at hlinked
  cases hlookup : g.lookup base with
  | none => rfl
  | some ancestor => exact if_neg fun hincludes => hlinked ⟨ancestor, hlookup, hincludes⟩

theorem brokenLink_of_linkedAt (steps : Nat)
    (hvisited : node.HasSeen g visited i)
    (hderived : node.chain? g i = some derived) (hends : ¬node.EndsAt g i) (hlinked : node.LinkedAt g v i) :
    ∃ base, node.chain? g (i + 1) = some base ∧
      brokenLink g v (steps + 1) visited derived (node.chain? g (i + 1)) =
        brokenLink g v steps (base :: visited) base (node.chain? g (i + 2)) := by
  obtain ⟨base, hbase, hopen⟩ := exists_base_of_not_endsAt hvisited hends
  refine ⟨base, hbase, ?_⟩
  obtain ⟨ancestor, hlookup, hincludes⟩ := (linkedAt_iff hbase hderived).mp hlinked
  have hnext : node.chain? g (i + 2) = ancestor.decl.baseType.map TypeName.normalize := by
    rw [chain?, ancestor?_succ, hbase, Option.bind_some, hlookup]
    rfl
  rw [hbase, brokenLink, if_neg hopen, hlookup, hnext]
  exact if_pos hincludes

theorem HasSeen.cons {base : String} (hvisited : node.HasSeen g visited i)
    (hbase : node.chain? g (i + 1) = some base) : node.HasSeen g (base :: visited) (i + 1) := by
  intro name
  rw [List.mem_cons, hvisited name]
  constructor
  · rintro (rfl | ⟨j, hj, hname⟩)
    · exact ⟨i + 1, Nat.le_refl _, hbase⟩
    · exact ⟨j, Nat.le_succ_of_le hj, hname⟩
  · rintro ⟨j, hj, hname⟩
    rcases Nat.le_succ_iff.mp hj with hj | rfl
    · exact .inr ⟨j, hj, hname⟩
    · exact .inl (Option.some.inj (hname.symm.trans hbase))

theorem brokenLink_eq_some_iff (hnode : node ∈ g.nodes) (hgo : node.GoesOnTo g v i)
    (hvisited : node.HasSeen g visited i)
    (hderived : node.chain? g i = some derived) {steps : Nat} (hsteps : g.size < i + steps) :
    brokenLink g v steps visited derived (node.chain? g (i + 1)) = some link ↔
      ∃ k, i ≤ k ∧ node.BreaksAt g v k link.1 link.2 := by
  induction steps generalizing i visited derived with
  | zero => exact absurd (hgo.le_size hnode) (Nat.not_le.mpr hsteps)
  | succ steps ih =>
      by_cases hends : node.EndsAt g i
      · rw [brokenLink_of_endsAt _ hvisited hends]
        refine iff_of_false (fun h => nomatch h) ?_
        rintro ⟨k, hik, hbreaks⟩
        exact hbreaks.not_endsAt hik hends
      · by_cases hlinked : node.LinkedAt g v i
        · obtain ⟨base, hbase, hwalk⟩ := brokenLink_of_linkedAt steps hvisited hderived hends hlinked
          rw [hwalk, ih (hgo.succ hends hlinked) (hvisited.cons hbase) hbase (by omega)]
          constructor
          · rintro ⟨k, hik, hbreaks⟩
            exact ⟨k, Nat.le_of_succ_le hik, hbreaks⟩
          · rintro ⟨k, hik, hbreaks⟩
            refine ⟨k, Nat.lt_of_le_of_ne hik ?_, hbreaks⟩
            rintro rfl
            exact hbreaks.notLinked hlinked
        · obtain ⟨base, hbase, hwalk⟩ := brokenLink_of_not_linkedAt steps hvisited hderived hends hlinked
          rw [hwalk]
          constructor
          · rintro ⟨⟩
            exact ⟨i, Nat.le_refl i, hgo, hends, hlinked, hbase, hderived⟩
          · rintro ⟨k, hik, hbreaks⟩
            obtain rfl := hbreaks.eq_of_not_linkedAt hik hlinked
            cases hbase.symm.trans hbreaks.base
            cases hderived.symm.trans hbreaks.derived
            rfl

theorem brokenLink_root (hnode : node ∈ g.nodes) {steps : Nat} (hsteps : g.size < steps) :
    brokenLink g v steps [node.qualifiedName] node.qualifiedName (node.decl.baseType.map TypeName.normalize) =
        some link ↔ ∃ k, node.BreaksAt g v k link.1 link.2 := by
  have hvisited : node.HasSeen g [node.qualifiedName] 0 := by simp [HasSeen, chain?, eq_comm]
  refine (brokenLink_eq_some_iff hnode goesOnTo_zero hvisited rfl ((Nat.zero_add steps).symm ▸ hsteps)).trans ?_
  simp only [Nat.zero_le, true_and]

end Walk

theorem baseReport?_eq_some_iff (hnode : node ∈ g.nodes) {d : Diagnostic} :
    node.baseReport? g v = some d ↔
      ∃ i base derived, node.BreaksAt g v i base derived ∧
        d = Rule.baseNotChained.diagnostic node.decl.location
          ("Base type '" ++ base ++ "' must be marked with the contract attribute and include '" ++
            derived ++ "'") := by
  rw [baseReport?, Option.map_eq_some_iff]
  constructor
  · rintro ⟨link, hlink, rfl⟩
    obtain ⟨i, hbreaks⟩ := (brokenLink_root hnode (Nat.lt_succ_self _)).mp hlink
    exact ⟨i, link.1, link.2, hbreaks, rfl⟩
  · rintro ⟨i, base, derived, hbreaks, rfl⟩
    exact ⟨(base, derived), (brokenLink_root hnode (Nat.lt_succ_self _)).mpr ⟨i, hbreaks⟩, rfl⟩

theorem brokenLink_root_eq (hnode : node ∈ g.nodes) {steps : Nat} (hsteps : g.size < steps) :
    brokenLink g v steps [node.qualifiedName] node.qualifiedName (node.decl.baseType.map TypeName.normalize) =
      brokenLink g v (g.size + 1) [node.qualifiedName] node.qualifiedName
        (node.decl.baseType.map TypeName.normalize) := by
  ext link
  rw [brokenLink_root hnode hsteps, brokenLink_root hnode (Nat.lt_succ_self _)]

end TypeNode

namespace Sample

def including (name base derived : String) (isPartial : Bool) : DeclTree :=
  .node { name, namespaceName := "Shop", isPartial, baseType := some base
          attributes := [{ name := "ProtoBuf.ProtoContract" },
            { name := "ProtoBuf.ProtoInclude", arguments := [.int 10, .string derived] }] } []

def derivedTypes : List DeclTree :=
  [including "Letter" "global::Shop.Item" "Shop.Card" true, including "Item" "Acme.Entity" "Shop.Letter, Shop" false,
    including "Day" " Shop.Week" "Shop.Week" true, including "Week" "Shop.Day" "Shop.Day" false]

def derivedGraph : Graph := Graph.layOut derivedTypes

theorem ofTypes_derivedTypes : Graph.ofTypes derivedTypes = .ok derivedGraph := rfl

theorem reports_derivedGraph :
    ((derivedGraph.roots {}).map fun node =>
        (node.qualifiedName, (node.baseReport? derivedGraph {}).map (·.message))) =
      [("Shop.Letter",
          some "Base type 'Acme.Entity' must be marked with the contract attribute and include 'Shop.Item'"),
        ("Shop.Day", none)] := by decide +kernel

theorem isSome_baseReport?_iff {node : TypeNode} (h : node ∈ derivedGraph.roots {}) :
    (node.baseReport? derivedGraph {}).isSome ↔ node.qualifiedName = "Shop.Letter" := by
  have hmem : (node.qualifiedName, (node.baseReport? derivedGraph {}).map (·.message)) ∈ _ :=
    reports_derivedGraph ▸ List.mem_map.mpr ⟨node, h, rfl⟩
  cases hd : node.baseReport? derivedGraph {} with
  | none =>
      rw [hd] at hmem
      have hname : node.qualifiedName = "Shop.Day" := by simpa using hmem
      simp [hname]
  | some d =>
      rw [hd] at hmem
      have hname : node.qualifiedName = "Shop.Letter" := by grind
      simp [hname]

end Sample

namespace Graph

/-- A root is reported, once, exactly if the way up from it meets a base that lacks its link, and for the first such
base. The way stops. It walks past no more bases than there are types, so it looks at one more at most. -/
theorem base_chain_reported_iff_broken {types : List DeclTree} {g : Graph} (hg : ofTypes types = .ok g)
    (settings : Settings) :
    ((g.diagnostics settings).filter (·.rule == .baseNotChained)).Perm
      ((g.roots settings.vocabulary).filterMap (·.baseReport? g settings.vocabulary)) ∧
    ∀ node ∈ g.roots settings.vocabulary,
      (∀ d, node.baseReport? g settings.vocabulary = some d ↔
        ∃ i base derived, node.BreaksAt g settings.vocabulary i base derived ∧
          d = Rule.baseNotChained.diagnostic node.decl.location
            ("Base type '" ++ base ++ "' must be marked with the contract attribute and include '" ++
              derived ++ "'")) ∧
      (∃ i, node.GoesOnTo g settings.vocabulary i ∧
        (node.EndsAt g i ∨ ¬node.LinkedAt g settings.vocabulary i)) ∧
      (∀ i, node.GoesOnTo g settings.vocabulary i → i ≤ g.size) ∧
      ∀ steps, g.size < steps →
        TypeNode.brokenLink g settings.vocabulary steps [node.qualifiedName] node.qualifiedName
            (node.decl.baseType.map TypeName.normalize) =
          TypeNode.brokenLink g settings.vocabulary (g.size + 1) [node.qualifiedName] node.qualifiedName
            (node.decl.baseType.map TypeName.normalize) := by
  refine ⟨?_, fun node hnode => ?_⟩
  · rw [List.filterMap_eq_flatMap_toList, roots, ← flatMap_ite]
    simp only [← TypeNode.baseChain_eq]
    exact perm_share hg .baseNotChained
  · have hnode := (List.mem_filter.mp hnode).1
    exact ⟨fun _ => TypeNode.baseReport?_eq_some_iff hnode, TypeNode.exists_stop hnode,
      fun _ h => h.le_size hnode, fun _ => TypeNode.brokenLink_root_eq hnode⟩

theorem base_chain_reported_iff_broken_sample :
    ofTypes Sample.derivedTypes = .ok Sample.derivedGraph ∧
      ((Sample.derivedGraph.diagnostics {}).filter (·.rule == .baseNotChained)).map (·.message) =
        ["Base type 'Acme.Entity' must be marked with the contract attribute and include 'Shop.Item'"] ∧
      (Sample.derivedGraph.roots {}).map (·.qualifiedName) = ["Shop.Letter", "Shop.Day"] ∧
      ∀ node ∈ Sample.derivedGraph.roots {},
        (∃ i base derived, node.BreaksAt Sample.derivedGraph {} i base derived) ↔
          node.qualifiedName = "Shop.Letter" := by
  obtain ⟨hperm, hroots⟩ := base_chain_reported_iff_broken Sample.ofTypes_derivedTypes {}
  refine ⟨Sample.ofTypes_derivedTypes, ?_, ?_, fun node hnode => ?_⟩
  · have hmessages := congrArg (List.filterMap (·.2)) Sample.reports_derivedGraph
    rw [List.filterMap_map] at hmessages
    have hperm := hperm.map (·.message)
    rw [List.map_filterMap] at hperm
    exact List.perm_singleton.mp (hperm.trans (.of_eq hmessages))
  · have hnames := congrArg (List.map (·.1)) Sample.reports_derivedGraph
    rwa [List.map_map] at hnames
  · obtain ⟨hreport, -⟩ := hroots node hnode
    rw [← Sample.isSome_baseReport?_iff hnode, Option.isSome_iff_exists]
    constructor
    · rintro ⟨i, base, derived, hbreaks⟩
      exact ⟨_, (hreport _).mpr ⟨i, base, derived, hbreaks, rfl⟩⟩
    · rintro ⟨d, hd⟩
      obtain ⟨i, base, derived, hbreaks, -⟩ := (hreport d).mp hd
      exact ⟨i, base, derived, hbreaks⟩

end Graph

end WireShadow
