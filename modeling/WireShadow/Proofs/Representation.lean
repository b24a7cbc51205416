import WireShadow.Proofs.Earlier
import WireShadow.Proofs.MemberTags
import WireShadow.Proofs.Nesting

namespace WireShadow

def Sound (sites : List Site) : Prop :=
  (∀ s ∈ sites, Text.allBlank s.decl.name = false) ∧ (sites.map (·.qualifiedName)).Nodup

def Site.defect? (before : List Site) (s : Site) : Option GraphDefect :=
  if Text.allBlank s.decl.name then some .blankName
  else if s.qualifiedName ∈ before.map (·.qualifiedName) then some (.duplicateType s.qualifiedName)
  else none

namespace Graph

def nestedIn (nodes : List TypeNode) (parent : Option Nat) : List Nat :=
  (nodes.filter (·.parent = parent)).map (·.id)

/-- The declaration of a type with those inside it, put together again for as many levels as there are steps. -/
def tree? (g : Graph) : Nat → Nat → Option DeclTree
  | 0, _ => none
  | steps + 1, id => do
    let node ← g.node? id
    let nested ← node.children.mapM (g.tree? steps)
    return .node node.decl nested

def trees? (g : Graph) : Option (List DeclTree) := g.topLevel.mapM (g.tree? g.size)

/-- The graph holds the declarations of a document and the way they are nested, and nothing else. -/
structure Represents (g : Graph) (types : List DeclTree) : Prop where
  ids : g.nodes.map (·.id) = List.range g.size
  sites : g.nodes.map g.site = DeclTree.sitesAll [] types
  names : ∀ node ∈ g.nodes, node.qualifiedName = (g.site node).qualifiedName ∧
    node.namespaceName = (g.site node).namespaceName
  numbers : g.numbers = g.nodes.map fun node => (node.qualifiedName, node.id)
  inside : ∀ node ∈ g.nodes, ∀ id, node.parent = some id → id < node.id ∧
    ∃ outer, g.node? id = some outer ∧ g.enclosing node = outer :: g.enclosing outer
  outermost : ∀ node ∈ g.nodes, node.parent = none → g.enclosing node = []
  children : ∀ outer ∈ g.nodes, outer.children = nestedIn g.nodes (some outer.id)
  topLevel : g.topLevel = nestedIn g.nodes none
  trees : g.trees? = some types

section Placement

variable {g : Graph} {types : List DeclTree}

theorem nestedIn_append (nodes nodes' : List TypeNode) (parent : Option Nat) :
    nestedIn (nodes ++ nodes') parent = nestedIn nodes parent ++ nestedIn nodes' parent := by
  simp [nestedIn]

mutual

theorem nestedIn_place {start : Nat} {around : Option Surroundings} {parent : Option Nat} :
    (tree : DeclTree) → (∀ id, parent = some id → id < start ∨ start + tree.size ≤ id) →
      nestedIn (tree.place start around) parent = if around.map (·.parent) = parent then [start] else []
  | .node decl nested => by
      intro hout
      have hinner : some start ≠ parent := by
        intro h
        have := hout start h.symm
        rw [DeclTree.size] at this
        omega
      have hinside : ∀ id, parent = some id → id < start + 1 ∨ start + 1 + DeclTree.sizeAll nested ≤ id := by
        intro id h
        have := hout id h
        rw [DeclTree.size] at this
        omega
      have hnested (s : Surroundings) (hs : s.parent = start) :
          nestedIn (DeclTree.placeAll (start + 1) (some s) nested) parent = [] := by
        rw [nestedIn_placeAll nested hinside, Option.map_some, hs, if_neg hinner]
      rw [DeclTree.place, ← List.singleton_append, nestedIn_append, hnested _ rfl, List.append_nil]
      by_cases h : around.map (·.parent) = parent <;> simp [nestedIn, h]

theorem nestedIn_placeAll {start : Nat} {around : Option Surroundings} {parent : Option Nat} :
    (trees : List DeclTree) → (∀ id, parent = some id → id < start ∨ start + DeclTree.sizeAll trees ≤ id) →
      nestedIn (DeclTree.placeAll start around trees) parent =
        if around.map (·.parent) = parent then DeclTree.starts start trees else []
  | [] => by
      intro _
      by_cases h : around.map (·.parent) = parent <;> simp [nestedIn, DeclTree.placeAll, DeclTree.starts]
  | tree :: trees => by
      intro hout
      rw [DeclTree.sizeAll] at hout
      rw [DeclTree.placeAll, nestedIn_append, DeclTree.starts,
        nestedIn_place tree (fun id h => by have := hout id h; omega),
        nestedIn_placeAll trees (fun id h => by have := hout id h; omega)]
      by_cases h : around.map (·.parent) = parent <;> simp [h]

end

theorem id_of_mem_place {start : Nat} {around : Option Surroundings} {tree : DeclTree} {node : TypeNode}
    (h : node ∈ tree.place start around) : start ≤ node.id ∧ node.id < start + tree.size := by
  have hid := List.mem_map_of_mem (f := (·.id)) h
  rwa [DeclTree.place_ids, List.mem_range'_1] at hid

theorem id_of_mem_placeAll {start : Nat} {around : Option Surroundings} {trees : List DeclTree} {node : TypeNode}
    (h : node ∈ DeclTree.placeAll start around trees) :
    start ≤ node.id ∧ node.id < start + DeclTree.sizeAll trees := by
  have hid := List.mem_map_of_mem (f := (·.id)) h
  rwa [DeclTree.placeAll_ids, List.mem_range'_1] at hid

theorem parent_ne_of_le {start : Nat} {around : Option Surroundings} (hstart : ∀ s ∈ around, s.parent < start)
    {id : Nat} (hid : start ≤ id) : around.map (·.parent) ≠ some id := by
  intro h
  obtain ⟨s, hs, rfl⟩ := Option.map_eq_some_iff.mp h
  exact Nat.not_lt.mpr hid (hstart s hs)

mutual

theorem children_place {start : Nat} {around : Option Surroundings} (hstart : ∀ s ∈ around, s.parent < start) :
    (tree : DeclTree) → ∀ outer ∈ tree.place start around,
      nestedIn (tree.place start around) (some outer.id) = outer.children
  | .node decl nested => by
      intro outer houter
      rw [DeclTree.place] at houter ⊢
      rw [← List.singleton_append, nestedIn_append]
      rcases List.mem_cons.mp houter with rfl | houter
      · rw [nestedIn_placeAll nested (fun id h => by cases h; exact .inl (Nat.lt_succ_self start))]
        simp [nestedIn, parent_ne_of_le hstart (Nat.le_refl start)]
      · have hid := (id_of_mem_placeAll houter).1
        rw [children_placeAll (by simp) nested outer houter]
        simp [nestedIn, parent_ne_of_le hstart (Nat.le_of_succ_le hid)]

theorem children_placeAll {start : Nat} {around : Option Surroundings} (hstart : ∀ s ∈ around, s.parent < start) :
    (trees : List DeclTree) → ∀ outer ∈ DeclTree.placeAll start around trees,
      nestedIn (DeclTree.placeAll start around trees) (some outer.id) = outer.children
  | [] => fun _ h => absurd h List.not_mem_nil
  | tree :: trees => by
      intro outer houter
      rw [DeclTree.placeAll] at houter ⊢
      rw [nestedIn_append]
      rcases List.mem_append.mp houter with houter | houter
      · obtain ⟨hle, hlt⟩ := id_of_mem_place houter
        rw [children_place hstart tree outer houter,
          nestedIn_placeAll trees (fun id h => by cases h; exact .inl hlt), if_neg (parent_ne_of_le hstart hle),
          List.append_nil]
      · obtain ⟨hle, -⟩ := id_of_mem_placeAll houter
        rw [children_placeAll (fun s hs => Nat.lt_add_right _ (hstart s hs)) trees outer houter,
          nestedIn_place tree (fun id h => by cases h; exact .inr hle),
          if_neg (parent_ne_of_le hstart (Nat.le_trans (Nat.le_add_right _ _) hle)), List.nil_append]

end

mutual

theorem parent_place {start : Nat} {around : Option Surroundings} :
    (tree : DeclTree) → ∀ node ∈ tree.place start around, ∀ id, node.parent = some id →
      around.map (·.parent) = some id ∨ start ≤ id ∧ id < node.id
  | .node decl nested => by
      intro node hnode id hid
      rw [DeclTree.place] at hnode
      rcases List.mem_cons.mp hnode with rfl | hnode
      · exact .inl hid
      · rcases parent_placeAll nested node hnode id hid with h | ⟨hle, hlt⟩
        · cases h
          exact .inr ⟨Nat.le_refl start, (id_of_mem_placeAll hnode).1⟩
        · exact .inr ⟨Nat.le_of_succ_le hle, hlt⟩

theorem parent_placeAll {start : Nat} {around : Option Surroundings} :
    (trees : List DeclTree) → ∀ node ∈ DeclTree.placeAll start around trees, ∀ id, node.parent = some id →
      around.map (·.parent) = some id ∨ start ≤ id ∧ id < node.id
  | [] => fun _ h => absurd h List.not_mem_nil
  | tree :: trees => by
      intro node hnode id hid
      rw [DeclTree.placeAll] at hnode
      rcases List.mem_append.mp hnode with hnode | hnode
      · exact parent_place tree node hnode id hid
      · exact (parent_placeAll trees node hnode id hid).imp_right fun h =>
          ⟨Nat.le_trans (Nat.le_add_right start tree.size) h.1, h.2⟩

end

mutual

theorem tree?_place {start : Nat} {around : Option Surroundings} :
    (tree : DeclTree) → g.HasAt start (tree.place start around) → ∀ steps, tree.size ≤ steps →
      g.tree? steps start = some tree
  | .node decl nested => by
      intro hat steps hsteps
      rw [DeclTree.place] at hat
      rw [DeclTree.size] at hsteps
      -- One step is for the type itself, and what is left does for all inside it at once.
      obtain ⟨steps, rfl⟩ := Nat.exists_eq_add_of_le hsteps
      have hnested := trees?_placeAll nested hat.tail (DeclTree.sizeAll nested + steps) (Nat.le_add_right _ _)
      rw [Nat.add_assoc, Nat.add_comm 1, tree?, hat.node?_eq]
      change (do let nested ← (DeclTree.starts (start + 1) nested).mapM (g.tree? _); _) = _
      rw [hnested]
      rfl

theorem trees?_placeAll {start : Nat} {around : Option Surroundings} :
    (trees : List DeclTree) → g.HasAt start (DeclTree.placeAll start around trees) →
      ∀ steps, DeclTree.sizeAll trees ≤ steps → (DeclTree.starts start trees).mapM (g.tree? steps) = some trees
  | [] => fun _ _ _ => rfl
  | tree :: trees => by
      intro hat steps hsteps
      rw [DeclTree.placeAll] at hat
      rw [DeclTree.sizeAll] at hsteps
      obtain ⟨hfirst, hrest⟩ := hat.append
      rw [DeclTree.length_place] at hrest
      rw [DeclTree.starts, List.mapM_cons, tree?_place tree hfirst steps (by omega),
        trees?_placeAll trees hrest steps (by omega)]
      rfl

end

end Placement

variable {types : List DeclTree} {g : Graph}

theorem id_of_node? {id : Nat} {node : TypeNode} (h : (layOut types).node? id = some node) : node.id = id := by
  have hid := congrArg (·[id]?) (ids_layOut types)
  rw [List.getElem?_map] at hid
  change ((layOut types).node? id).map (·.id) = _ at hid
  rw [h, Option.map_some] at hid
  obtain ⟨hlt, heq⟩ := List.getElem?_eq_some_iff.mp hid.symm
  rw [← heq, List.getElem_range]

theorem inside_layOut {node : TypeNode} (hnode : node ∈ (layOut types).nodes) {id : Nat} (hid : node.parent = some id) :
    id < node.id ∧ ∃ outer, (layOut types).node? id = some outer ∧
      (layOut types).enclosing node = outer :: (layOut types).enclosing outer := by
  have hlt : id < node.id := by
    rcases parent_placeAll types node hnode id hid with h | h
    · cases h
    · exact h.2
  have hsize : node.id < (layOut types).size := by
    have hmem := List.mem_map_of_mem (f := (·.id)) hnode
    rwa [ids_layOut, List.mem_range] at hmem
  have houter : (layOut types).node? id = some _ := List.getElem?_eq_getElem (Nat.lt_trans hlt hsize)
  refine ⟨hlt, _, houter, ?_⟩
  rw [enclosing, hid, outwards, dif_pos hlt, houter, enclosing, id_of_node? houter]

theorem map_site_outwards (types : List DeclTree) (id : Nat) (parent : Option Nat) :
    ((layOut types).outwards id parent).map (layOut types).site =
      Site.chain (((layOut types).outwards id parent).map (·.decl)) := by
  fun_induction outwards (layOut types) id parent with
  | case1 | case2 | case4 => rfl
  | case3 id parent hlt node hnode ih =>
      rw [List.map_cons, List.map_cons, Site.chain, ih, site, enclosing, id_of_node? hnode]

theorem mem_of_mem_outwards {g : Graph} {id : Nat} {parent : Option Nat} {outer : TypeNode}
    (h : outer ∈ g.outwards id parent) : outer ∈ g.nodes := by
  fun_induction outwards g id parent with
  | case1 | case2 | case4 => cases h
  | case3 id parent hlt node hnode ih =>
      rcases List.mem_cons.mp h with rfl | h
      · exact List.mem_of_getElem? hnode
      · exact ih h

theorem map_label_enclosing (types : List DeclTree) (node : TypeNode) :
    ((layOut types).enclosing node).map TypeNode.label =
      (Site.chain ((layOut types).site node).outer).map Site.label := by
  change _ = (Site.chain (((layOut types).outwards _ _).map (·.decl))).map Site.label
  rw [← map_site_outwards, List.map_map]
  exact List.map_congr_left fun outer houter => label_layOut (mem_of_mem_outwards houter)

theorem represents_layOut (types : List DeclTree) : (layOut types).Represents types where
  ids := ids_layOut types
  sites := map_site_layOut types
  names := fun _ => names_layOut
  numbers := rfl
  inside := fun _ hnode _ => inside_layOut hnode
  outermost := by
    intro node _ hparent
    rw [enclosing, hparent, outwards]
  children := by
    intro outer houter
    have hnone : ∀ s ∈ (none : Option Surroundings), s.parent < 0 := by simp
    exact (children_placeAll hnone types outer houter).symm
  topLevel := by
    have hnone : ∀ id, none = some id → id < 0 ∨ 0 + DeclTree.sizeAll types ≤ id := by simp
    change _ = nestedIn (DeclTree.placeAll 0 none types) none
    rw [nestedIn_placeAll types hnone]
    rfl
  trees := trees?_placeAll types (hasAt_layOut types) _ (Nat.le_of_eq (DeclTree.length_placeAll 0 none types).symm)

open Earlier

theorem firstDefect_eq_head? {nodes : List TypeNode}
    (hnames : ∀ node ∈ nodes, node.qualifiedName = (g.site node).qualifiedName) {before : List Site}
    {taken : List String} (htaken : ∀ name, name ∈ taken ↔ name ∈ before.map (·.qualifiedName)) :
    firstDefect taken nodes =
      (reports (fun earlier => Site.defect? (before ++ earlier)) (nodes.map g.site)).head? := by
  induction nodes generalizing before taken with
  | nil => rfl
  | cons node nodes ih =>
      obtain ⟨hname, hnames⟩ := List.forall_mem_cons.mp hnames
      have htaken' : ∀ name, name ∈ node.qualifiedName :: taken ↔
          name ∈ (before ++ [g.site node]).map (·.qualifiedName) := by
        intro name
        simp [htaken, hname, or_comm]
      have hrest := ih hnames htaken'
      rw [firstDefect, List.map_cons, reports_append_cons, hrest, Site.defect?, ← hname]
      simp only [htaken]
      split
      · next hblank => simp [site, hblank]
      · next hblank =>
          split
          · next htwice => simp [site, hblank]
          · next hfresh => simp [site, hblank]

end Graph

theorem Site.defect?_eq_none_iff {before : List Site} {s : Site} :
    s.defect? before = none ↔
      Text.allBlank s.decl.name = false ∧ s.qualifiedName ∉ before.map (·.qualifiedName) := by
  rw [Site.defect?]
  split
  · next h => simp [h]
  · next h =>
      split
      · next htwice => simp [htwice]
      · next hfresh => exact ⟨fun _ => ⟨by simpa using h, hfresh⟩, fun _ => rfl⟩

theorem reports_defect?_eq_nil_iff {sites : List Site} : Earlier.reports Site.defect? sites = [] ↔ Sound sites := by
  constructor
  · intro h
    have hnone := Earlier.reports_eq_nil_iff.mp h
    refine ⟨fun s hs => ?_, ?_⟩
    · obtain ⟨before, after, heq⟩ := List.append_of_mem hs
      exact (Site.defect?_eq_none_iff.mp (hnone before s after heq)).1
    · rw [← List.filterMap_eq_map']
      refine Earlier.nodup_of_reports_eq_nil (fun before s name hname hmem => ?_) h
      rw [← Option.some.inj hname, List.filterMap_eq_map'] at hmem
      rw [Option.isSome_iff_ne_none]
      exact fun hs => (Site.defect?_eq_none_iff.mp hs).2 hmem
  · rintro ⟨hnamed, hnodup⟩
    refine Earlier.reports_eq_nil_iff.mpr fun before s after heq => ?_
    subst heq
    rw [List.map_append, List.map_cons] at hnodup
    refine Site.defect?_eq_none_iff.mpr ⟨hnamed s (by simp), fun hmem => ?_⟩
    exact (List.nodup_append.mp hnodup).2.2 _ hmem _ List.mem_cons_self rfl

namespace Graph

open Earlier

theorem firstDefect_layOut (types : List DeclTree) :
    firstDefect [] (layOut types).nodes = (reports Site.defect? (DeclTree.sitesAll [] types)).head? := by
  have htaken : ∀ name, name ∈ ([] : List String) ↔ name ∈ ([] : List Site).map (·.qualifiedName) := by simp
  have h := firstDefect_eq_head? (g := layOut types) (fun node hnode => (names_layOut hnode).1) htaken
  rwa [map_site_layOut] at h

theorem exists_ofTypes_iff {types : List DeclTree} :
    (∃ g, ofTypes types = .ok g) ↔ Sound (DeclTree.sitesAll [] types) := by
  simp only [ofTypes_eq_ok_iff, exists_and_left, exists_eq, and_true]
  rw [firstDefect_layOut, List.head?_eq_none_iff, reports_defect?_eq_nil_iff]

theorem ofTypes_layOut {types : List DeclTree} (h : Sound (DeclTree.sitesAll [] types)) :
    ofTypes types = .ok (layOut types) := by
  obtain ⟨g, hg⟩ := exists_ofTypes_iff.mpr h
  rw [hg, eq_layOut hg]

theorem name_ne_empty {types : List DeclTree} {g : Graph} (hg : ofTypes types = .ok g) {node : TypeNode}
    (hnode : node ∈ g.nodes) : node.decl.name ≠ "" := by
  have hsound := exists_ofTypes_iff.mp ⟨g, hg⟩
  obtain rfl := eq_layOut hg
  rw [← map_site_layOut] at hsound
  have hnamed : Text.allBlank node.decl.name = false := hsound.1 _ (List.mem_map_of_mem hnode)
  intro hempty
  rw [hempty] at hnamed
  cases hnamed

theorem ofTypes_eq_error_iff {types : List DeclTree} {failure : Failure} :
    ofTypes types = .error failure ↔ ∃ (before : List Site) (s : Site) (after : List Site) (defect : GraphDefect),
      DeclTree.sitesAll [] types = before ++ s :: after ∧ Sound before ∧ s.defect? before = some defect ∧
        failure = .invalidGraph defect := by
  have hfirst (defect : GraphDefect) : firstDefect [] (layOut types).nodes = some defect ↔
      ∃ (before : List Site) (s : Site) (after : List Site), DeclTree.sitesAll [] types = before ++ s :: after ∧
        Sound before ∧ s.defect? before = some defect := by
    simp only [firstDefect_layOut, head?_reports_eq_some_iff, ← reports_defect?_eq_nil_iff]
  constructor
  · intro h
    obtain ⟨defect, hdefect, rfl⟩ := ofTypes_eq_error_iff_firstDefect.mp h
    obtain ⟨before, s, after, heq, hbefore, hs⟩ := (hfirst defect).mp hdefect
    exact ⟨before, s, after, defect, heq, hbefore, hs, rfl⟩
  · rintro ⟨before, s, after, defect, heq, hbefore, hs, rfl⟩
    exact ofTypes_eq_error_iff_firstDefect.mpr ⟨defect, (hfirst defect).mpr ⟨before, s, after, heq, hbefore, hs⟩, rfl⟩

/-- Declarations are accepted if each has a name and no two have the same qualified one, and else refused for the
first that breaks this. Accepted ones are all in the graph, nested as they are in the document. -/
theorem ofTypes_represents_document (types : List DeclTree) :
    ((∃ g, ofTypes types = .ok g) ↔ Sound (DeclTree.sitesAll [] types)) ∧
      (∀ failure, ofTypes types = .error failure ↔
        ∃ (before : List Site) (s : Site) (after : List Site) (defect : GraphDefect),
        DeclTree.sitesAll [] types = before ++ s :: after ∧ Sound before ∧ s.defect? before = some defect ∧
          failure = .invalidGraph defect) ∧
      ∀ g, ofTypes types = .ok g → g.Represents types :=
  ⟨exists_ofTypes_iff, fun _ => ofTypes_eq_error_iff, fun _ hg => eq_layOut hg ▸ represents_layOut types⟩

theorem ofTypes_represents_document_sample :
    ofTypes Sample.types = .ok Sample.graph ∧ Sample.graph.Represents Sample.types ∧
      (DeclTree.sitesAll [] Sample.types).map (·.qualifiedName) =
        ["Test.Shop", "Test.Shop.Order", "Test.Colors", "Test.Colors.Shade"] ∧
      ofTypes (Sample.types ++ Sample.types) = .error (.invalidGraph (.duplicateType "Test.Shop")) := by
  obtain ⟨haccepted, -, hrepresents⟩ := ofTypes_represents_document Sample.types
  obtain ⟨-, hrefused, -⟩ := ofTypes_represents_document (Sample.types ++ Sample.types)
  have hsound : Sound (DeclTree.sitesAll [] Sample.types) := haccepted.mp ⟨_, Sample.ofTypes_types⟩
  refine ⟨Sample.ofTypes_types, hrepresents _ Sample.ofTypes_types, by decide +kernel, ?_⟩
  exact (hrefused _).mpr ⟨DeclTree.sitesAll [] Sample.types, _, _, _, rfl, hsound, by decide +kernel, rfl⟩

end Graph

end WireShadow
