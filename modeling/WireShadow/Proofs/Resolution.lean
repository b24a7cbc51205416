import WireShadow.Proofs.NormalNames
import WireShadow.Proofs.Representation

namespace WireShadow

namespace TypeName

open Text

theorem rootAlias_append_iff {first behind : List Char} (hbehind : ∀ c ∈ behind.head?, c = '.') :
    rootAlias <+: first ++ behind ↔ rootAlias <+: first := by
  refine ⟨fun h => ?_, fun h => h.trans (List.prefix_append first behind)⟩
  by_cases hlength : rootAlias.length ≤ first.length
  · exact List.prefix_of_prefix_length_le h (List.prefix_append first behind) hlength
  · cases behind with
    | nil => rwa [List.append_nil] at h
    | cons c behind =>
        obtain rfl : c = '.' := hbehind c rfl
        have hdot : first ++ ['.'] <+: first ++ '.' :: behind := ⟨behind, by simp⟩
        have hinside : first ++ ['.'] <+: rootAlias :=
          List.prefix_of_prefix_length_le hdot h (by rw [List.length_append]; exact Nat.lt_of_not_le hlength)
        exact absurd (hinside.subset (List.mem_append_right first List.mem_cons_self)) (by decide)

theorem normal_iff {name first behind before last : String} (hfirst : name = first ++ behind)
    (hbehind : ∀ c ∈ behind.toList.head?, c = '.') (hlast : name = before ++ last) (hne : first ≠ "")
    (hne' : last ≠ "") :
    Normal name ↔ (∀ c ∈ first.toList.head?, isBlank c = false) ∧
      (∀ c ∈ last.toList.getLast?, isBlank c = false) ∧ ¬rootAlias <+: first.toList := by
  have hhead : name.toList.head? = first.toList.head? := by
    rw [hfirst, String.toList_append, List.head?_append_of_ne_nil _ (String.toList_eq_nil_iff.not.mpr hne)]
  have hgetLast : name.toList.getLast? = last.toList.getLast? := by
    rw [hlast, String.toList_append, List.getLast?_append_of_ne_nil _ (String.toList_eq_nil_iff.not.mpr hne')]
  have halias : rootAlias <+: name.toList ↔ rootAlias <+: first.toList := by
    rw [hfirst, String.toList_append, rootAlias_append_iff hbehind]
  rw [← hhead, ← hgetLast, ← halias]
  exact ⟨fun h => ⟨h.front, h.back, h.unrooted⟩, fun h => ⟨h.1, h.2.1, h.2.2⟩⟩

end TypeName

namespace Site

def firstSegment (s : Site) : String :=
  if s.namespaceName.isEmpty then (s.outer.getLastD s.decl).name else s.namespaceName

/-- The name of a declaration begins and ends in such a way that it is still itself when it is normalized. -/
structure Findable (s : Site) : Prop where
  front : ∀ c ∈ s.firstSegment.toList.head?, Text.isBlank c = false
  back : ∀ c ∈ s.decl.name.toList.getLast?, Text.isBlank c = false
  unrooted : ¬TypeName.rootAlias <+: s.firstSegment.toList

theorem firstSegment_nested (decl inner : TypeDecl) (outer : List TypeDecl) :
    firstSegment { decl := inner, outer := decl :: outer } = firstSegment { decl, outer } := by
  rw [firstSegment, firstSegment, namespaceName_nested, List.getLastD_cons]

theorem exists_firstSegment_append (s : Site) :
    ∃ behind : String, s.qualifiedName = s.firstSegment ++ behind ∧ ∀ c ∈ behind.toList.head?, c = '.' := by
  obtain ⟨decl, outer⟩ := s
  induction outer generalizing decl with
  | nil =>
      have hfirst : firstSegment { decl, outer := [] } =
          if (TypeName.normalize decl.namespaceName).isEmpty then decl.name
          else TypeName.normalize decl.namespaceName := rfl
      rw [qualifiedName_outermost, qualify, hfirst]
      split
      · exact ⟨"", String.append_empty.symm, by simp⟩
      · exact ⟨"." ++ decl.name, String.append_assoc, by simp⟩
  | cons first outer ih =>
      obtain ⟨behind, hname, hdot⟩ := ih first
      refine ⟨behind ++ "." ++ decl.name, ?_, ?_⟩
      · rw [qualifiedName_nested, hname, firstSegment_nested, String.append_assoc, String.append_assoc,
          String.append_assoc]
      · cases hbehind : behind.toList with
        | nil => simp [hbehind]
        | cons c cs =>
            rw [hbehind] at hdot
            simpa [hbehind] using hdot

theorem exists_append_name (s : Site) : ∃ before : String, s.qualifiedName = before ++ s.decl.name := by
  obtain ⟨decl, outer⟩ := s
  cases outer with
  | nil =>
      rw [qualifiedName_outermost, qualify]
      split
      · exact ⟨"", by simp⟩
      · exact ⟨_, rfl⟩
  | cons first outer => exact ⟨_, qualifiedName_nested first decl outer⟩

theorem normal_qualifiedName_iff {s : Site} (hnames : ∀ decl ∈ s.decl :: s.outer, decl.name ≠ "") :
    TypeName.Normal s.qualifiedName ↔ s.Findable := by
  obtain ⟨behind, hfirst, hbehind⟩ := s.exists_firstSegment_append
  obtain ⟨before, hlast⟩ := s.exists_append_name
  have hne : s.firstSegment ≠ "" := by
    rw [firstSegment]
    split
    · exact hnames _ List.getLastD_mem_cons
    · next h => simpa using h
  rw [TypeName.normal_iff hfirst hbehind hlast hne (hnames _ List.mem_cons_self)]
  exact ⟨fun h => ⟨h.1, h.2.1, h.2.2⟩, fun h => ⟨h.front, h.back, h.unrooted⟩⟩

end Site

open WireShadow.TypeName

namespace Graph

variable {types : List DeclTree} {g : Graph}

theorem name_of_lookup (hg : ofTypes types = .ok g) {name : String} {node : TypeNode} (h : g.lookup name = some node) :
    node ∈ g.nodes ∧ node.qualifiedName = normalize name := by
  obtain rfl := eq_layOut hg
  rw [lookup_layOut] at h
  have hname := List.find?_some h
  exact ⟨List.mem_of_find?_eq_some h, beq_iff_eq.mp hname⟩

theorem lookup_eq_some_iff (hg : ofTypes types = .ok g) {name : String} {node : TypeNode} :
    g.lookup name = some node ↔ node ∈ g.nodes ∧ node.qualifiedName = normalize name := by
  refine ⟨name_of_lookup hg, fun ⟨hnode, hname⟩ => ?_⟩
  have hsome : (g.lookup name).isSome := by
    obtain rfl := eq_layOut hg
    rw [lookup_layOut]
    exact List.find?_isSome.mpr ⟨node, hnode, beq_iff_eq.mpr hname⟩
  obtain ⟨found, hfound⟩ := Option.isSome_iff_exists.mp hsome
  obtain ⟨hmem, hsame⟩ := name_of_lookup hg hfound
  rw [hfound, List.inj_on_of_nodup_map (nodup_names hg) hmem hnode (hsame.trans hname.symm)]

theorem normal_qualifiedName_iff (hg : ofTypes types = .ok g) {node : TypeNode} (hnode : node ∈ g.nodes) :
    Normal node.qualifiedName ↔ (g.site node).Findable := by
  have hnames : ∀ decl ∈ (g.site node).decl :: (g.site node).outer, decl.name ≠ "" := by
    intro decl hdecl
    rcases List.mem_cons.mp hdecl with rfl | houter
    · exact name_ne_empty hg hnode
    · obtain ⟨outer, hmem, rfl⟩ := List.mem_map.mp houter
      exact name_ne_empty hg (mem_of_mem_outwards hmem)
  rw [← Site.normal_qualifiedName_iff hnames]
  obtain rfl := eq_layOut hg
  rw [(names_layOut hnode).1]

/-- A name leads to the type whose name it is when it is normalized. So a type is found under its own name exactly if
that name is normal, and a name that is normalized before leads elsewhere unless it is normal by then. -/
theorem lookup_consistent_iff_normal (hg : ofTypes types = .ok g) :
    (∀ name node, g.lookup name = some node ↔ node ∈ g.nodes ∧ node.qualifiedName = normalize name) ∧
      (∀ node ∈ g.nodes, g.lookup node.qualifiedName = some node ↔ (g.site node).Findable) ∧
      ∀ name, g.lookup (normalize name) = g.lookup name ↔
        Normal (normalize name) ∨ g.lookup name = none ∧ g.lookup (normalize name) = none := by
  refine ⟨fun name node => lookup_eq_some_iff hg, fun node hnode => ?_, fun name => ⟨fun hsame => ?_, ?_⟩⟩
  · rw [← normal_qualifiedName_iff hg hnode, ← normalize_eq_self_iff, lookup_eq_some_iff hg]
    exact ⟨fun h => h.2.symm, fun h => ⟨hnode, h.symm⟩⟩
  · cases hfound : g.lookup name with
    | none => exact .inr ⟨rfl, hsame.trans hfound⟩
    | some node =>
        obtain ⟨-, honce⟩ := (lookup_eq_some_iff hg).mp hfound
        obtain ⟨-, htwice⟩ := (lookup_eq_some_iff hg).mp (hsame.trans hfound)
        exact .inl (normalize_eq_self_iff.mp (htwice.symm.trans honce))
  · rintro (hnormal | ⟨hname, htwice⟩)
    · rw [lookup, lookup, normalize_eq_self_iff.mpr hnormal]
    · rw [hname, htwice]

end Graph

namespace Sample

def misspelled : List DeclTree :=
  [.node { name := "Order ", namespaceName := "Shop" } [],
    .node { name := "Item", namespaceName := "global::global::Shop" } [.node { name := "Part" } []],
    .node { name := "Line", namespaceName := "global::Shop" } []]

end Sample

namespace Graph

open Sample

theorem lookup_consistent_iff_normal_misspelled :
    ofTypes misspelled = .ok (layOut misspelled) ∧
      (∀ node ∈ (layOut misspelled).nodes, (layOut misspelled).lookup node.qualifiedName = some node ↔
        ((layOut misspelled).site node).Findable) ∧
      (layOut misspelled).nodes.map (fun node => (node.qualifiedName,
          ((layOut misspelled).lookup node.qualifiedName).isSome)) =
        [("Shop.Order ", false), ("global::Shop.Item", false), ("global::Shop.Item.Part", false),
          ("Shop.Line", true)] := by
  have hg : ofTypes misspelled = .ok (layOut misspelled) := rfl
  obtain ⟨-, hfound, -⟩ := lookup_consistent_iff_normal hg
  exact ⟨hg, hfound, by decide +kernel⟩

/-- A type need not be found under its own name, and a name can lead to a type before it is normalized and to none
afterwards. -/
theorem lookup_loses_types :
    ofTypes misspelled = .ok (layOut misspelled) ∧
      (∃ node ∈ (layOut misspelled).nodes, (layOut misspelled).lookup node.qualifiedName = none) ∧
      ((layOut misspelled).lookup "global::global::Shop.Item").isSome = true ∧
      (layOut misspelled).lookup (TypeName.normalize "global::global::Shop.Item") = none := by
  have hnone (name : String) (h : ((layOut misspelled).lookup name).isNone = true) :
      (layOut misspelled).lookup name = none := Option.isNone_iff_eq_none.mp h
  refine ⟨rfl, ⟨_, List.mem_cons_self, hnone _ ?_⟩, ?_, hnone _ ?_⟩ <;> decide +kernel

end Graph

end WireShadow
