import WireShadow.Graph.Walk
import WireShadow.Proofs.Placement

namespace WireShadow.Graph

def HasAt (g : Graph) (start : Nat) (nodes : List TypeNode) : Prop := nodes <+: g.nodes.drop start

namespace HasAt

variable {g : Graph} {start : Nat} {node : TypeNode} {nodes nodes' : List TypeNode}

theorem node?_eq (h : g.HasAt start (node :: nodes)) : g.node? start = some node := by
  obtain ⟨rest, hrest⟩ := h
  have hhead := congrArg List.head? hrest
  rw [List.head?_drop] at hhead
  exact hhead.symm

theorem append (h : g.HasAt start (nodes ++ nodes')) :
    g.HasAt start nodes ∧ g.HasAt (start + nodes.length) nodes' := by
  obtain ⟨rest, hrest⟩ := h
  rw [List.append_assoc] at hrest
  refine ⟨⟨nodes' ++ rest, hrest⟩, rest, ?_⟩
  rw [← List.drop_drop, ← hrest, List.drop_left]

theorem tail (h : g.HasAt start (node :: nodes)) : g.HasAt (start + 1) nodes := by
  rw [← List.singleton_append] at h
  exact h.append.2

end HasAt

theorem hasAt_layOut (types : List DeclTree) : (layOut types).HasAt 0 (layOut types).nodes := List.prefix_rfl

def visit (g : Graph) (node : TypeNode) : Visit := { node, ancestors := (g.enclosing node).reverse }

/-- From each number behind `start`, the way outwards through these surroundings leads along the path, whose
outermost type comes first. -/
def LeadsAlong (g : Graph) (start : Nat) (around : Option Surroundings) (path : List TypeNode) : Prop :=
  ∀ id, start ≤ id → (g.outwards id (around.map (·.parent))).reverse = path

namespace LeadsAlong

variable {g : Graph} {start later : Nat} {around : Option Surroundings} {path : List TypeNode}

theorem mono (h : g.LeadsAlong start around path) (hle : start ≤ later) : g.LeadsAlong later around path :=
  fun id hid => h id (Nat.le_trans hle hid)

theorem outermost (g : Graph) (start : Nat) : g.LeadsAlong start none [] := fun id _ => by
  rw [Option.map_none, outwards]
  rfl

theorem inside (h : g.LeadsAlong start around path) {node : TypeNode} (hnode : g.node? start = some node)
    (hparent : node.parent = around.map (·.parent)) {inner : Surroundings} (hinner : inner.parent = start) :
    g.LeadsAlong (start + 1) (some inner) (path ++ [node]) := by
  intro id hid
  rw [Option.map_some, hinner, outwards, dif_pos (show start < id from hid), hnode]
  simp only [List.reverse_cons, hparent, h start (Nat.le_refl start)]

end LeadsAlong

theorem exists_place (start : Nat) (around : Option Surroundings) (decl : TypeDecl) (nested : List DeclTree) :
    ∃ (node : TypeNode) (inner : Surroundings),
      (DeclTree.node decl nested).place start around =
        node :: DeclTree.placeAll (start + 1) (some inner) nested ∧
      node.id = start ∧ node.parent = around.map (·.parent) ∧
      node.children = DeclTree.starts (start + 1) nested ∧ inner.parent = start :=
  ⟨_, _, rfl, rfl, rfl, rfl, rfl⟩

theorem visit_eq {g : Graph} {start : Nat} {around : Option Surroundings} {path : List TypeNode}
    (h : g.LeadsAlong start around path) {node : TypeNode} (hid : node.id = start)
    (hparent : node.parent = around.map (·.parent)) : g.visit node = { node, ancestors := path } := by
  rw [visit, enclosing, hid, hparent, h start (Nat.le_refl start)]

namespace Walk

variable {g : Graph} {w w' w'' : Walk} {visits visits' : List Visit}

/-- From one state of a walk to a later one, with the visits in between. -/
inductive Leads (g : Graph) : Walk → List Visit → Walk → Prop
  | stay (w : Walk) : Leads g w [] w
  | visit {w w' w'' : Walk} {visit : Visit} {visits : List Visit} :
      w.next g = some (visit, w') → Leads g w' visits w'' → Leads g w (visit :: visits) w''

theorem Leads.trans (h : Leads g w visits w') (h' : Leads g w' visits' w'') : Leads g w (visits ++ visits') w'' := by
  induction h with
  | stay => exact h'
  | visit hnext _ ih => exact .visit hnext (ih h')

theorem run_succ {visit : Visit} (h : w.next g = some (visit, w')) (steps : Nat) :
    run g (steps + 1) w = visit :: run g steps w' := by
  simp only [run, h]

theorem Leads.run_eq (h : Leads g w visits w') (steps : Nat) :
    run g (visits.length + steps) w = visits ++ run g steps w' := by
  induction h with
  | stay => rw [List.length_nil, Nat.zero_add, List.nil_append]
  | visit hnext _ ih => rw [List.length_cons, Nat.add_right_comm, run_succ hnext, ih, List.cons_append]

theorem next_eq {id : Nat} {path : List TypeNode} {node : TypeNode} (hnode : g.node? id = some node)
    (pending : List (Nat × Nat)) (below : List TypeNode) :
    next g { pending := (id, path.length) :: pending, path := path ++ below } =
      some ({ node, ancestors := path },
        { pending := node.children.map (fun child => (child, path.length + 1)) ++ pending
          path := path ++ [node] }) := by
  simp only [next, hnode, List.take_left]

mutual

/-- As long as a walk is inside a tree, the path down to the tree stays; what is below is replaced. -/
theorem leads_place {start : Nat} {around : Option Surroundings} {path : List TypeNode} :
    (tree : DeclTree) → g.HasAt start (tree.place start around) → g.LeadsAlong start around path →
      ∀ (pending : List (Nat × Nat)) (below : List TypeNode), ∃ below',
        Leads g { pending := (start, path.length) :: pending, path := path ++ below }
          ((tree.place start around).map g.visit) { pending, path := path ++ below' }
  | .node decl nested => by
      intro hat hpath pending below
      obtain ⟨node, inner, hplace, hid, hparent, hchildren, hinner⟩ := exists_place start around decl nested
      rw [hplace] at hat ⊢
      have hnode := hat.node?_eq
      obtain ⟨below', hnested⟩ :=
        leads_placeAll nested hat.tail (hpath.inside hnode hparent hinner) pending []
      refine ⟨node :: below', ?_⟩
      rw [List.append_nil, List.length_append, List.length_singleton, List.append_assoc, ← hchildren] at hnested
      rw [List.map_cons, visit_eq hpath hid hparent]
      exact .visit (next_eq hnode pending below) hnested

theorem leads_placeAll {start : Nat} {around : Option Surroundings} {path : List TypeNode} :
    (trees : List DeclTree) → g.HasAt start (DeclTree.placeAll start around trees) →
      g.LeadsAlong start around path →
      ∀ (pending : List (Nat × Nat)) (below : List TypeNode), ∃ below',
        Leads g
          { pending := (DeclTree.starts start trees).map (fun id => (id, path.length)) ++ pending
            path := path ++ below }
          ((DeclTree.placeAll start around trees).map g.visit) { pending, path := path ++ below' }
  | [] => fun _ _ _ below => ⟨below, .stay _⟩
  | tree :: trees => by
      intro hat hpath pending below
      rw [DeclTree.placeAll] at hat ⊢
      obtain ⟨hfirst, hrest⟩ := hat.append
      rw [DeclTree.length_place] at hrest
      have hmono := hpath.mono (Nat.le_add_right start tree.size)
      obtain ⟨below₁, htree⟩ := leads_place tree hfirst hpath
        ((DeclTree.starts (start + tree.size) trees).map (fun id => (id, path.length)) ++ pending) below
      obtain ⟨below₂, htrees⟩ := leads_placeAll trees hrest hmono pending below₁
      refine ⟨below₂, ?_⟩
      rw [List.map_append]
      exact htree.trans htrees

end

end Walk

theorem exists_leads {types : List DeclTree} {g : Graph} (h : ofTypes types = .ok g) :
    ∃ path, Walk.Leads g (Walk.start g) (g.nodes.map g.visit) { pending := [], path } := by
  obtain rfl := eq_layOut h
  obtain ⟨path, hleads⟩ := Walk.leads_placeAll types (hasAt_layOut types) (.outermost _ 0) [] []
  rw [List.append_nil] at hleads
  exact ⟨path, hleads⟩

theorem walk_eq {types : List DeclTree} {g : Graph} (h : ofTypes types = .ok g) :
    g.walk = g.nodes.map g.visit := by
  obtain ⟨path, hleads⟩ := exists_leads h
  have hrun := hleads.run_eq 0
  rwa [List.length_map, Nat.add_zero, Walk.run, List.append_nil] at hrun

end WireShadow.Graph
