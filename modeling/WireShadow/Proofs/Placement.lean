import WireShadow.Graph
import WireShadow.Proofs.Lists

namespace WireShadow

namespace DeclTree

def starts (start : Nat) : List DeclTree → List Nat
  | [] => []
  | tree :: trees => start :: starts (start + tree.size) trees

mutual

/-- The types of a tree in the order of the document, numbered from `start`. -/
def place (start : Nat) (around : Option Surroundings) : DeclTree → List TypeNode
  | node decl nested =>
    let qualifiedName := Surroundings.nameOf around decl
    let namespaceName := Surroundings.namespaceOf around decl
    { id := start, decl, parent := around.map (·.parent), children := starts (start + 1) nested,
      qualifiedName, namespaceName } ::
      placeAll (start + 1) (some { parent := start, qualifiedName, namespaceName }) nested

def placeAll (start : Nat) (around : Option Surroundings) : List DeclTree → List TypeNode
  | [] => []
  | tree :: trees => tree.place start around ++ placeAll (start + tree.size) around trees

end

mutual

theorem place_ids (start : Nat) (around : Option Surroundings) :
    (tree : DeclTree) → (tree.place start around).map (·.id) = List.range' start tree.size
  | node decl nested => by
      rw [place, List.map_cons, placeAll_ids, size, Nat.add_comm 1, List.range'_succ]

theorem placeAll_ids (start : Nat) (around : Option Surroundings) :
    (trees : List DeclTree) → (placeAll start around trees).map (·.id) = List.range' start (sizeAll trees)
  | [] => rfl
  | tree :: trees => by
      rw [placeAll, List.map_append, place_ids, placeAll_ids, sizeAll, List.range'_append_1]

end

theorem length_place (start : Nat) (around : Option Surroundings) (tree : DeclTree) :
    (tree.place start around).length = tree.size := by
  have h := congrArg List.length (place_ids start around tree)
  rwa [List.length_map, List.length_range'] at h

theorem length_placeAll (start : Nat) (around : Option Surroundings) (trees : List DeclTree) :
    (placeAll start around trees).length = sizeAll trees := by
  have h := congrArg List.length (placeAll_ids start around trees)
  rwa [List.length_map, List.length_range'] at h

end DeclTree

namespace Graph

def firstDefect (taken : List String) : List TypeNode → Option GraphDefect
  | [] => none
  | node :: nodes =>
    if Text.allBlank node.decl.name then some .blankName
    else if node.qualifiedName ∈ taken then some (.duplicateType node.qualifiedName)
    else firstDefect (node.qualifiedName :: taken) nodes

section Defects

variable {taken taken' : List String}

theorem firstDefect_congr (h : ∀ name, name ∈ taken ↔ name ∈ taken') (nodes : List TypeNode) :
    firstDefect taken nodes = firstDefect taken' nodes := by
  induction nodes generalizing taken taken' with
  | nil => rfl
  | cons node nodes ih =>
      have hmore : ∀ name, name ∈ node.qualifiedName :: taken ↔ name ∈ node.qualifiedName :: taken' := by
        intro name
        rw [List.mem_cons, List.mem_cons, h]
      simp only [firstDefect, h, ih hmore]

theorem firstDefect_append (taken : List String) (nodes nodes' : List TypeNode) :
    firstDefect taken (nodes ++ nodes') =
      (firstDefect taken nodes).or (firstDefect (taken ++ nodes.map (·.qualifiedName)) nodes') := by
  induction nodes generalizing taken with
  | nil => rw [List.map_nil, List.append_nil]; rfl
  | cons node nodes ih =>
      have hmore : ∀ name, name ∈ node.qualifiedName :: taken ++ nodes.map (·.qualifiedName) ↔
          name ∈ taken ++ (node :: nodes).map (·.qualifiedName) := by
        intro name
        simp only [List.mem_append, List.mem_cons, List.map_cons]
        tauto
      rw [List.cons_append, firstDefect, firstDefect, ih, firstDefect_congr hmore]
      split
      · rfl
      · split <;> rfl

theorem nodup_of_firstDefect {nodes : List TypeNode} (h : firstDefect taken nodes = none) :
    (nodes.map (·.qualifiedName)).Nodup ∧ ∀ node ∈ nodes, node.qualifiedName ∉ taken := by
  induction nodes generalizing taken with
  | nil => exact ⟨.nil, fun _ hm => absurd hm List.not_mem_nil⟩
  | cons node nodes ih =>
      rw [firstDefect] at h
      split at h
      · cases h
      · split at h
        · cases h
        · next hfresh =>
            obtain ⟨hnodup, hnot⟩ := ih h
            refine ⟨List.nodup_cons.mpr ⟨?_, hnodup⟩, ?_⟩
            · intro hm
              obtain ⟨other, hother, heq⟩ := List.mem_map.mp hm
              exact hnot other hother (heq ▸ List.mem_cons_self)
            · intro other hm
              rcases List.mem_cons.mp hm with rfl | hm
              · exact hfresh
              · exact fun ht => hnot other hm (List.mem_cons_of_mem _ ht)

end Defects

def names (g : Graph) : List String := g.nodes.map (·.qualifiedName)

def numbering (nodes : List TypeNode) : List (String × Nat) := nodes.map fun node => (node.qualifiedName, node.id)

/-- The names that are noted are those of the types, each with the number of its type. -/
def Indexed (g : Graph) : Prop := g.numbers = numbering g.nodes

def extend (g : Graph) (nodes : List TypeNode) : Graph :=
  { g with nodes := g.nodes ++ nodes, numbers := g.numbers ++ numbering nodes }

def addChildren (g : Graph) (outer : Nat) (children : List Nat) : Graph :=
  { g with nodes := g.nodes.modify outer fun node => { node with children := node.children ++ children } }

section Growth

variable {g : Graph}

theorem numbering_modify (nodes : List TypeNode) (outer : Nat) (children : List Nat) :
    numbering (nodes.modify outer fun node => { node with children := node.children ++ children }) =
      numbering nodes := by
  induction nodes generalizing outer with
  | nil => cases outer <;> rfl
  | cons node nodes ih =>
      cases outer with
      | zero => rfl
      | succ outer => exact congrArg (_ :: ·) (ih outer)

theorem Indexed.push (h : g.Indexed) (around : Option Surroundings) (decl : TypeDecl) :
    (g.push around decl).Indexed := by
  change g.numbers ++ _ = numbering (g.nodes ++ _)
  rw [h, numbering, numbering, List.map_append]
  rfl

theorem Indexed.extend (h : g.Indexed) (nodes : List TypeNode) : (g.extend nodes).Indexed := by
  change g.numbers ++ _ = numbering (g.nodes ++ _)
  rw [h, numbering, numbering, numbering, List.map_append]

theorem Indexed.addChildren (h : g.Indexed) (outer : Nat) (children : List Nat) :
    (g.addChildren outer children).Indexed :=
  h.trans (numbering_modify g.nodes outer children).symm

theorem Indexed.names_eq (h : g.Indexed) : g.names = g.numbers.map (·.1) := by
  rw [h, numbering, List.map_map]
  rfl

theorem Indexed.isSome_lookup_iff (h : g.Indexed) (name : String) :
    (g.numbers.lookup name).isSome = true ↔ name ∈ g.names := by
  rw [h.names_eq, List.lookup_isSome_iff, List.mem_map]
  refine exists_congr fun number => and_congr_right fun _ => ?_
  rw [beq_iff_eq, eq_comm]

theorem names_addChildren (h : g.Indexed) (outer : Nat) (children : List Nat) :
    (g.addChildren outer children).names = g.names := by
  rw [h.names_eq, (h.addChildren outer children).names_eq]
  rfl

theorem size_addChildren (g : Graph) (outer : Nat) (children : List Nat) :
    (g.addChildren outer children).size = g.size :=
  List.length_modify _ _ _

theorem size_extend (g : Graph) (nodes : List TypeNode) : (g.extend nodes).size = g.size + nodes.length :=
  List.length_append

theorem extend_extend (g : Graph) (nodes nodes' : List TypeNode) :
    (g.extend nodes).extend nodes' = g.extend (nodes ++ nodes') := by
  simp only [Graph.extend, numbering, List.append_assoc, List.map_append]

theorem addChildren_nil (g : Graph) (outer : Nat) : g.addChildren outer [] = g := by
  simp only [Graph.addChildren, List.append_nil]
  exact congrArg (fun nodes => { g with nodes }) (List.modify_id outer g.nodes)

theorem addChildren_addChild (g : Graph) (outer child : Nat) (children : List Nat) :
    (g.addChild outer child).addChildren outer children = g.addChildren outer (child :: children) := by
  simp only [addChild, Graph.addChildren, List.modify_modify_eq]
  refine congrArg (fun f => { g with nodes := g.nodes.modify outer f }) (funext fun node => ?_)
  simp

theorem addChildren_extend {outer : Nat} (h : outer < g.size) (children : List Nat) (nodes : List TypeNode) :
    (g.addChildren outer children).extend nodes = (g.extend nodes).addChildren outer children := by
  simp only [Graph.extend, Graph.addChildren, modify_append_of_lt _ h]

theorem addChildren_extend_push (g : Graph) (around : Option Surroundings) (decl : TypeDecl) (children : List Nat)
    (nodes : List TypeNode) :
    ((g.push around decl).extend nodes).addChildren g.size children =
      g.extend ({ id := g.size, decl, parent := around.map (·.parent), children
                  qualifiedName := Surroundings.nameOf around decl
                  namespaceName := Surroundings.namespaceOf around decl } :: nodes) := by
  simp only [push, Graph.extend, Graph.addChildren, numbering, List.append_assoc, List.singleton_append, List.map_cons,
    size, modify_length_append, List.nil_append]

end Growth

mutual

/-- Insertion stops at the first defect, and else puts the types of a tree behind the others. -/
theorem insert_eq {g : Graph} (h : g.Indexed) (around : Option Surroundings) :
    (tree : DeclTree) → g.insert around tree =
      match firstDefect g.names (tree.place g.size around) with
      | some defect => .error defect
      | none => .ok (g.size, g.extend (tree.place g.size around))
  | .node decl nested => by
      have hnames : ∀ name, name ∈ (g.push around decl).names ↔
          name ∈ Surroundings.nameOf around decl :: g.names := by
        intro name
        rw [names, push, List.map_append, List.mem_append, List.mem_cons, or_comm]
        simp [names]
      have hsize : (g.push around decl).size = g.size + 1 := List.length_append
      rw [insert, DeclTree.place, firstDefect]
      simp only [h.isSome_lookup_iff]
      split
      · rfl
      · split
        · rfl
        · rw [insertNested_eq (h.push around decl) _ (by rw [hsize]; exact Nat.lt_succ_self _) nested, hsize,
            firstDefect_congr hnames]
          cases firstDefect _ _ with
          | some defect => rfl
          | none => exact congrArg (fun grown => Except.ok (g.size, grown)) (addChildren_extend_push g around decl _ _)

theorem insertNested_eq {g : Graph} (h : g.Indexed) (outer : Surroundings) (houter : outer.parent < g.size) :
    (trees : List DeclTree) → g.insertNested outer trees =
      match firstDefect g.names (DeclTree.placeAll g.size (some outer) trees) with
      | some defect => .error defect
      | none => .ok ((g.extend (DeclTree.placeAll g.size (some outer) trees)).addChildren outer.parent
          (DeclTree.starts g.size trees))
  | [] => by
      rw [DeclTree.placeAll, DeclTree.starts, firstDefect, addChildren_nil]
      simp [insertNested, extend, numbering]
      rfl
  | tree :: trees => by
      have hindexed : ((g.extend (tree.place g.size (some outer))).addChild outer.parent g.size).Indexed :=
        (h.extend _).addChildren outer.parent [g.size]
      have hnames : ((g.extend (tree.place g.size (some outer))).addChild outer.parent g.size).names =
          g.names ++ (tree.place g.size (some outer)).map (·.qualifiedName) :=
        (names_addChildren (h.extend _) outer.parent [g.size]).trans List.map_append
      have hsize : ((g.extend (tree.place g.size (some outer))).addChild outer.parent g.size).size =
          g.size + tree.size := by
        rw [← DeclTree.length_place g.size (some outer) tree, ← size_extend]
        exact size_addChildren _ outer.parent [g.size]
      rw [insertNested, insert_eq h (some outer) tree, DeclTree.placeAll, DeclTree.starts, firstDefect_append]
      cases firstDefect g.names (tree.place g.size (some outer)) with
      | some defect => rfl
      | none =>
          change insertNested _ outer trees = _
          rw [insertNested_eq hindexed outer (by omega) trees, hnames, hsize, Option.none_or]
          cases firstDefect _ _ with
          | some defect => rfl
          | none =>
              refine congrArg Except.ok ?_
              change ((addChildren _ outer.parent [g.size]).extend _).addChildren _ _ = _
              rw [addChildren_extend (by rw [size_extend]; omega), extend_extend]
              exact addChildren_addChild _ outer.parent g.size _

end

theorem insertAll_eq {g : Graph} (h : g.Indexed) (trees : List DeclTree) :
    g.insertAll trees =
      match firstDefect g.names (DeclTree.placeAll g.size none trees) with
      | some defect => .error defect
      | none => .ok { g.extend (DeclTree.placeAll g.size none trees) with
          topLevel := g.topLevel ++ DeclTree.starts g.size trees } := by
  induction trees generalizing g with
  | nil =>
      rw [DeclTree.placeAll, DeclTree.starts, firstDefect]
      simp only [insertAll, extend, numbering, List.append_nil, List.map_nil]
      rfl
  | cons tree trees ih =>
      have hindexed : ((g.extend (tree.place g.size none)).addTopLevel g.size).Indexed := h.extend _
      have hnames : ((g.extend (tree.place g.size none)).addTopLevel g.size).names =
          g.names ++ (tree.place g.size none).map (·.qualifiedName) := List.map_append
      have hsize : ((g.extend (tree.place g.size none)).addTopLevel g.size).size = g.size + tree.size := by
        rw [← DeclTree.length_place g.size none tree]
        exact size_extend g _
      rw [insertAll, insert_eq h none tree, DeclTree.placeAll, DeclTree.starts, firstDefect_append]
      cases firstDefect g.names (tree.place g.size none) with
      | some defect => rfl
      | none =>
          change insertAll _ trees = _
          rw [ih hindexed, hnames, hsize, Option.none_or]
          cases firstDefect _ _ with
          | some defect => rfl
          | none =>
              simp only [extend, addTopLevel, numbering, List.append_assoc, List.singleton_append, List.map_append]

def layOut (types : List DeclTree) : Graph :=
  { nodes := DeclTree.placeAll 0 none types, topLevel := DeclTree.starts 0 types
    numbers := numbering (DeclTree.placeAll 0 none types) }

theorem ofTypes_eq (types : List DeclTree) :
    ofTypes types =
      match firstDefect [] (layOut types).nodes with
      | some defect => .error (.invalidGraph defect)
      | none => .ok (layOut types) := by
  have hinsert := insertAll_eq (g := {}) (show Indexed {} from rfl) types
  rw [ofTypes, hinsert]
  change Except.mapError _ (match firstDefect [] (DeclTree.placeAll 0 none types) with
    | some defect => _
    | none => _) = match firstDefect [] (DeclTree.placeAll 0 none types) with
    | some defect => _
    | none => _
  cases firstDefect [] (DeclTree.placeAll 0 none types) <;> rfl

theorem ids_layOut (types : List DeclTree) :
    (layOut types).nodes.map (·.id) = List.range (layOut types).size := by
  have hsize : (layOut types).size = DeclTree.sizeAll types := DeclTree.length_placeAll 0 none types
  rw [hsize, List.range_eq_range']
  exact DeclTree.placeAll_ids 0 none types

theorem node?_layOut {types : List DeclTree} {node : TypeNode} (h : node ∈ (layOut types).nodes) :
    (layOut types).node? node.id = some node := by
  obtain ⟨i, hi, rfl⟩ := List.mem_iff_getElem.mp h
  have hids := congrArg (·[i]?) (ids_layOut types)
  simp only [List.getElem?_map, List.getElem?_eq_getElem hi, Option.map_some] at hids
  obtain ⟨hlt, heq⟩ := List.getElem?_eq_some_iff.mp hids.symm
  rw [List.getElem_range] at heq
  rw [← heq]
  exact List.getElem?_eq_getElem hi

theorem lookup_layOut (types : List DeclTree) (name : String) :
    (layOut types).lookup name =
      (layOut types).nodes.find? (·.qualifiedName == TypeName.normalize name) := by
  change ((numbering (layOut types).nodes).lookup _).bind _ = _
  rw [numbering, lookup_map_pair]
  cases hfind : (layOut types).nodes.find? (·.qualifiedName == TypeName.normalize name) with
  | none => rfl
  | some node => exact node?_layOut (List.mem_of_find?_eq_some hfind)

variable {types : List DeclTree} {g : Graph}

theorem mem_of_lookup {name : String} {node : TypeNode} (h : g.lookup name = some node) : node ∈ g.nodes := by
  obtain ⟨id, -, hid⟩ := Option.bind_eq_some_iff.mp h
  exact List.mem_of_getElem? hid

theorem ofTypes_eq_ok_iff :
    ofTypes types = .ok g ↔ firstDefect [] (layOut types).nodes = none ∧ g = layOut types := by
  rw [ofTypes_eq]
  cases firstDefect [] (layOut types).nodes with
  | some defect => simp
  | none => simp [eq_comm]

theorem ofTypes_eq_error_iff_firstDefect {failure : Failure} : ofTypes types = .error failure ↔
    ∃ defect, firstDefect [] (layOut types).nodes = some defect ∧ failure = .invalidGraph defect := by
  rw [ofTypes_eq]
  cases firstDefect [] (layOut types).nodes with
  | some defect => simp [eq_comm]
  | none => simp

theorem eq_layOut (h : ofTypes types = .ok g) : g = layOut types := (ofTypes_eq_ok_iff.mp h).2

theorem nodup_names (h : ofTypes types = .ok g) : (g.nodes.map (·.qualifiedName)).Nodup := by
  obtain ⟨hd, rfl⟩ := ofTypes_eq_ok_iff.mp h
  exact (nodup_of_firstDefect hd).1

theorem node?_of_mem (h : ofTypes types = .ok g) {node : TypeNode} (hm : node ∈ g.nodes) :
    g.node? node.id = some node := by
  obtain rfl := eq_layOut h
  exact node?_layOut hm

end Graph

end WireShadow
