import WireShadow.Proofs.Course
import WireShadow.Proofs.Representation
import WireShadow.Proofs.WrittenFiles

namespace WireShadow

namespace TypeName

def arityMark : Char := '`'

/-- A text without its arities, of which each is a mark and the digits behind it. -/
def dropArities (inArity : Bool) : List Char → List Char
  | [] => []
  | c :: cs =>
    if c = arityMark then dropArities true cs
    else if inArity && c.isDigit then dropArities true cs
    else c :: dropArities false cs

def withoutArities (name : String) : String := String.ofList (dropArities false name.toList)

variable {name : String} {cs rest : List Char}

theorem dropArities_of_not_mem (h : arityMark ∉ cs) (rest : List Char) :
    dropArities false (cs ++ rest) = cs ++ dropArities false rest := by
  induction cs with
  | nil => rfl
  | cons c cs ih =>
      rw [List.mem_cons, not_or] at h
      rw [List.cons_append, dropArities, if_neg (Ne.symm h.1), Bool.false_and, if_neg Bool.false_ne_true, ih h.2,
        List.cons_append]

theorem dropArities_digits (h : ∀ c ∈ cs, c.isDigit = true) (rest : List Char) :
    dropArities true (cs ++ rest) = dropArities true rest := by
  induction cs with
  | nil => rfl
  | cons c cs ih =>
      obtain ⟨hc, hcs⟩ := List.forall_mem_cons.mp h
      have hmark : c ≠ arityMark := by
        rintro rfl
        exact absurd hc (by decide)
      rw [List.cons_append, dropArities, if_neg hmark, hc, Bool.true_and, if_pos rfl, ih hcs]

theorem dropArities_withArity (h : arityMark ∉ name.toList) (count : Nat) (rest : List Char) :
    dropArities false ((TypeRef.withArity name count).toList ++ rest) =
      name.toList ++ dropArities (decide (count ≠ 0)) rest := by
  by_cases hcount : count = 0
  · rw [TypeRef.withArity, if_pos hcount, dropArities_of_not_mem h]
    simp [hcount]
  · have htext : (TypeRef.withArity name count).toList = name.toList ++ arityMark :: (toString count).toList := by
      rw [TypeRef.withArity, if_neg hcount, String.toList_append, String.toList_append, List.append_assoc]
      rfl
    rw [htext, List.append_assoc, dropArities_of_not_mem h, List.cons_append, dropArities, if_pos rfl,
      dropArities_digits fun c => TypeRef.isDigit_of_mem_toString]
    simp [hcount]

theorem withoutArities_intercalate {names : List (String × Nat)} (h : ∀ n ∈ names, arityMark ∉ n.1.toList) :
    withoutArities (String.intercalate "." (names.map fun n => TypeRef.withArity n.1 n.2)) =
      String.intercalate "." (names.map (·.1)) := by
  -- In an arity or not, at the dot before the next name it is over.
  have hdot (inArity : Bool) (rest : List Char) :
      dropArities inArity (".".toList ++ rest) = ".".toList ++ dropArities false rest := by
    have hdigit : (inArity && '.'.isDigit) = false := by cases inArity <;> rfl
    change dropArities inArity ('.' :: rest) = '.' :: _
    rw [dropArities, if_neg (by decide), hdigit, if_neg Bool.false_ne_true]
    rfl
  rw [withoutArities, ← String.toList_inj, String.toList_ofList, String.toList_intercalate,
    String.toList_intercalate, List.map_map, List.map_map]
  induction names with
  | nil => rfl
  | cons n names ih =>
      obtain ⟨hn, hnames⟩ := List.forall_mem_cons.mp h
      cases names with
      | nil =>
          have hlast := dropArities_withArity hn n.2 []
          rw [List.append_nil] at hlast
          simpa [dropArities] using hlast
      | cons n' names =>
          have hrest := ih hnames
          simp only [List.map_cons, Function.comp_apply, List.intercalate_cons_cons] at hrest ⊢
          rw [List.append_assoc, dropArities_withArity hn, hdot, hrest, List.append_assoc]

end TypeName

theorem TypeHead.names_of_ofNode {node : TypeNode} {head : TypeHead} (h : ofNode node = .ok head) :
    head.name = node.decl.name ∧ head.namespaceName = node.namespaceName := by
  rw [ofNode] at h
  cases hkind : PartialKind.ofDecl node.decl with
  | error failure => rw [hkind] at h; cases h
  | ok kind => rw [hkind] at h; cases h; exact ⟨rfl, rfl⟩

namespace RootAnalysis

variable {g : Graph} {a : RootAnalysis} {heads : TypeHead × List TypeHead}

theorem names_of_heads (h : a.heads g = .ok heads) :
    heads.1.namespaceName = a.node.namespaceName ∧
      (heads.1 :: heads.2).map (·.name) = (a.node :: g.enclosing a.node).map (·.decl.name) := by
  have hheads := forall₂_heads h
  refine ⟨(TypeHead.names_of_ofNode (List.forall₂_cons.mp hheads).1).2, ?_⟩
  rw [← List.forall₂_eq_eq_eq, List.forall₂_map_left_iff, List.forall₂_map_right_iff]
  exact (hheads.imp fun _ _ h => (TypeHead.names_of_ofNode h).1).flip

end RootAnalysis

namespace TypeDescriptor

def segments (d : TypeDescriptor) : List (String × Nat) :=
  (if d.head.namespaceName.isEmpty then [] else [(d.head.namespaceName, 0)]) ++
    d.chain.map fun h => (h.name, h.typeParameters.length)

def keyName (d : TypeDescriptor) : String :=
  String.intercalate "." (d.segments.map fun n => TypeRef.withArity n.1 n.2)

theorem outputKey_eq (d : TypeDescriptor) (settings : Settings) :
    d.outputKey settings = settings.outputPrefix ++ d.keyName ++ settings.outputExtension := by
  rw [outputKey, keyName, segments]
  split
  · rw [List.nil_append, List.map_map]
    rfl
  · rw [List.singleton_append, List.map_cons, List.map_map]
    rfl

theorem map_fst_segments (d : TypeDescriptor) : d.segments.map (·.1) =
    (if d.head.namespaceName.isEmpty then [] else [d.head.namespaceName]) ++ d.chain.map (·.name) := by
  rw [segments, List.map_append, List.map_map]
  split <;> rfl

end TypeDescriptor

namespace Graph

variable {types : List DeclTree} {g : Graph} {settings : Settings}

/-- No name and no namespace of a declared type looks as if it had an arity. -/
def NamesUnmarked (g : Graph) : Prop :=
  ∀ node ∈ g.nodes, TypeName.arityMark ∉ node.decl.name.toList ∧ TypeName.arityMark ∉ node.namespaceName.toList

theorem forall_segments {P : String → Prop}
    (h : ∀ node ∈ (layOut types).nodes, P node.decl.name ∧ P node.namespaceName) {node : TypeNode}
    (hnode : node ∈ (layOut types).nodes) : ∀ name ∈ ((layOut types).site node).segments, P name := by
  intro name hname
  rw [Site.segments, List.mem_append] at hname
  rcases hname with hname | hname
  · split at hname
    · cases hname
    · rw [List.mem_singleton.mp hname, ← (names_layOut hnode).2]
      exact (h node hnode).2
  · obtain ⟨decl, hdecl, rfl⟩ := List.mem_map.mp hname
    rcases List.mem_cons.mp (List.mem_reverse.mp hdecl) with rfl | houter
    · exact (h node hnode).1
    · obtain ⟨outer, hmem, rfl⟩ := List.mem_map.mp houter
      exact (h outer (mem_of_mem_outwards hmem)).1

instance (g : Graph) : Decidable g.NamesUnmarked := inferInstanceAs (Decidable (∀ node ∈ g.nodes, _ ∧ _))

theorem map_fst_segments_of_describe (hg : ofTypes types = .ok g) {node : TypeNode} (hnode : node ∈ g.nodes)
    {v : Vocabulary} {token : Token} {d : TypeDescriptor} (h : (node.describe g v).outcome token = .ok (some d)) :
    d.segments.map (·.1) = (g.site node).segments := by
  obtain rfl := eq_layOut hg
  obtain ⟨heads, hheads, hd⟩ := TypeNode.exists_heads_of_describe h
  obtain ⟨hnamespace, houter⟩ := RootAnalysis.names_of_heads hheads
  obtain ⟨-, hsite⟩ := names_layOut hnode
  have hspace : d.head.namespaceName = ((layOut types).site node).namespaceName := by
    rw [hd, ← hsite]
    exact hnamespace
  have hchain : d.chain.map (·.name) = (node.decl :: ((layOut types).site node).outer).reverse.map (·.name) := by
    rw [TypeDescriptor.chain, List.map_reverse, hd]
    change ((heads.1 :: heads.2).map (·.name)).reverse = _
    rw [houter, List.map_reverse, List.map_cons, List.map_cons, site, List.map_map]
    rfl
  rw [TypeDescriptor.map_fst_segments, hspace, hchain]
  rfl

theorem withoutArities_keyName (hg : ofTypes types = .ok g) (hmarks : g.NamesUnmarked) {node : TypeNode}
    (hnode : node ∈ g.nodes) {v : Vocabulary} {token : Token} {d : TypeDescriptor}
    (h : (node.describe g v).outcome token = .ok (some d)) :
    TypeName.withoutArities d.keyName = node.qualifiedName := by
  have hsegments := map_fst_segments_of_describe hg hnode h
  obtain rfl := eq_layOut hg
  have hunmarked : ∀ n ∈ d.segments, TypeName.arityMark ∉ n.1.toList := by
    intro n hn
    have hmem : n.1 ∈ ((layOut types).site node).segments := hsegments ▸ List.mem_map_of_mem hn
    exact forall_segments (P := fun name => TypeName.arityMark ∉ name.toList) hmarks hnode n.1 hmem
  rw [TypeDescriptor.keyName, TypeName.withoutArities_intercalate hunmarked, hsegments, (names_layOut hnode).1,
    Site.qualifiedName]

theorem eq_of_outputKey_eq (hg : ofTypes types = .ok g) (hmarks : g.NamesUnmarked) {node node' : TypeNode}
    (hnode : node ∈ g.nodes) (hnode' : node' ∈ g.nodes) {v : Vocabulary} {token token' : Token}
    {d d' : TypeDescriptor} (h : (node.describe g v).outcome token = .ok (some d))
    (h' : (node'.describe g v).outcome token' = .ok (some d')) (hkey : d.outputKey settings = d'.outputKey settings) :
    node = node' := by
  have hname : d.keyName = d'.keyName := by
    rw [TypeDescriptor.outputKey_eq, TypeDescriptor.outputKey_eq] at hkey
    simpa [← String.toList_inj] using hkey
  have hqualified : node.qualifiedName = node'.qualifiedName := by
    rw [← withoutArities_keyName hg hmarks hnode h, ← withoutArities_keyName hg hmarks hnode' h', hname]
  exact List.inj_on_of_nodup_map (nodup_names hg) hnode hnode' hqualified

theorem qualifiedName_ne_empty (hg : ofTypes types = .ok g) {node : TypeNode} (hnode : node ∈ g.nodes) :
    node.qualifiedName ≠ "" := by
  have hname := name_ne_empty hg hnode
  obtain rfl := eq_layOut hg
  rw [(names_layOut hnode).1]
  exact Site.qualifiedName_ne_empty hname

theorem outputKey_ne_empty (hg : ofTypes types = .ok g) (hmarks : g.NamesUnmarked) {node : TypeNode}
    (hnode : node ∈ g.nodes) {v : Vocabulary} {token : Token} {d : TypeDescriptor}
    (h : (node.describe g v).outcome token = .ok (some d)) : d.outputKey settings ≠ "" := by
  have hname := withoutArities_keyName hg hmarks hnode h
  intro hempty
  rw [TypeDescriptor.outputKey_eq] at hempty
  have hkeyName : d.keyName = "" := by
    simp only [String.append_eq_empty_iff] at hempty
    exact hempty.1.2
  rw [hkeyName] at hname
  exact qualifiedName_ne_empty hg hnode hname.symm

theorem written_sublist (g : Graph) (v : Vocabulary) :
    ((g.shadowed v).filter fun node => (g.outermostEnum node).isNone).Sublist g.nodes :=
  List.filter_sublist.trans (List.filter_sublist.trans List.filter_sublist)

theorem exists_describe_of_mem_units {token : TypeNode → Token} {file : GeneratedUnit}
    (h : file ∈ (g.generateWith settings token).units) :
    ∃ node ∈ g.nodes, ∃ d, (node.describe g settings.vocabulary).outcome .never = .ok (some d) ∧
      file.outputKey = d.outputKey settings := by
  obtain ⟨node, hnode, d, -, hd, -, -, hkey, -⟩ := exists_generates_of_mem_units h
  exact ⟨node, (List.mem_filter.mp hnode).1, d, hd, hkey⟩

theorem keys_units (hg : ofTypes types = .ok g) (hmarks : g.NamesUnmarked) (settings : Settings)
    (token : TypeNode → Token) :
    ((g.generateWith settings token).units.map (·.outputKey)).Nodup ∧
      ∀ file ∈ (g.generateWith settings token).units, file.outputKey ≠ "" := by
  have hnodes := written_sublist g settings.vocabulary
  have hkeys : ((g.generate settings .never).units.map (·.outputKey)).Nodup := by
    refine nodup_map_of_forall₂ (covers_generate_never g settings).units
      ((List.Nodup.of_map _ (nodup_names hg)).sublist hnodes) ?_
    rintro node hnode node' hnode' file file' ⟨d, -, hd, -, -, hfile, -⟩ ⟨d', -, hd', -, -, hfile', -⟩ hkey
    rw [hfile, hfile'] at hkey
    exact eq_of_outputKey_eq hg hmarks (hnodes.subset hnode) (hnodes.subset hnode') hd hd' hkey
  refine ⟨hkeys.sublist ((units_generateWith_sublist g settings token).map _), fun file hmem => ?_⟩
  obtain ⟨node, hnode, d, hd, hfile⟩ := exists_describe_of_mem_units hmem
  rw [hfile]
  exact outputKey_ne_empty hg hmarks hnode hd

/-- The output key of a type is its qualified name with arities, between what the settings put around it, so no two
types get the same. Where the keys are names for a directory, no file is written over another. -/
theorem output_keys_tell_roots_apart (hg : ofTypes types = .ok g) (hmarks : g.NamesUnmarked) (settings : Settings) :
    (∀ node ∈ g.nodes, ∀ token d, (node.describe g settings.vocabulary).outcome token = .ok (some d) →
      ∃ middle, d.outputKey settings = settings.outputPrefix ++ middle ++ settings.outputExtension ∧
        TypeName.withoutArities middle = node.qualifiedName) ∧
    (∀ node ∈ g.nodes, ∀ node' ∈ g.nodes, ∀ token token' d d',
      (node.describe g settings.vocabulary).outcome token = .ok (some d) →
      (node'.describe g settings.vocabulary).outcome token' = .ok (some d') →
      node ≠ node' → d.outputKey settings ≠ d'.outputKey settings) ∧
    ∀ token, ((g.generateWith settings token).units.map (·.outputKey)).Nodup ∧
      ((∀ file ∈ (g.generateWith settings token).units, '/' ∉ file.outputKey.toList) →
        ∀ directory, Command.WritesApart directory (g.generateWith settings token).units) := by
  refine ⟨?_, ?_, ?_⟩
  · intro node hnode token d h
    exact ⟨d.keyName, d.outputKey_eq settings, withoutArities_keyName hg hmarks hnode h⟩
  · intro node hnode node' hnode' token token' d d' h h' hne hkey
    exact hne (eq_of_outputKey_eq hg hmarks hnode hnode' h h' hkey)
  · intro token
    obtain ⟨hkeys, hne⟩ := keys_units hg hmarks settings token
    refine ⟨hkeys, fun hslash => Command.writesApart_of_nodup (fun file hfile => ?_) hkeys⟩
    exact ⟨hslash file hfile, hne file hfile⟩

end Graph

namespace Sample

def boxedTypes : List DeclTree :=
  [.node { name := "Box", namespaceName := "Test", isPartial := true, typeParameters := ["T"] } [.node order []]]

def twins : List DeclTree :=
  ["Shop", "./Shop"].map fun space => .node { shade with name := "Order", namespaceName := space } []

def twinFile (space : String) : GeneratedUnit :=
  { outputKey := space ++ ".Order.g.cs"
    text := "// <auto-generated/>\n#nullable enable\n\nnamespace " ++ space ++ ";\n\npartial class Order\n\x7b\n" ++
      "    [global::ProtoBuf.ProtoMember(1)]\n    private int ProtoId \x7b get => Id; set => Id = value; \x7d\n\x7d\n" }

end Sample

namespace Graph

open Sample

theorem map_outputKey_boxedTypes : ((layOut boxedTypes).generateWith {} fun _ => .never).units.map (·.outputKey) =
    ["ProtoTest.Box`1.Order.g.cs"] := by
  decide +kernel

theorem output_keys_tell_roots_apart_boxed :
    ofTypes boxedTypes = .ok (layOut boxedTypes) ∧ (layOut boxedTypes).NamesUnmarked ∧
      ((layOut boxedTypes).generateWith {} fun _ => .never).units.map (·.outputKey) =
        ["ProtoTest.Box`1.Order.g.cs"] ∧
      Command.WritesApart "out" ((layOut boxedTypes).generateWith {} fun _ => .never).units := by
  have hmarks : (layOut boxedTypes).NamesUnmarked := by decide +kernel
  have hkeys := map_outputKey_boxedTypes
  have hg : ofTypes boxedTypes = .ok (layOut boxedTypes) := rfl
  obtain ⟨-, -, hunits⟩ := output_keys_tell_roots_apart hg hmarks {}
  refine ⟨hg, hmarks, hkeys, (hunits fun _ => .never).2 (fun file hfile => ?_) "out"⟩
  have hkey : file.outputKey ∈ ["ProtoTest.Box`1.Order.g.cs"] := hkeys ▸ List.mem_map_of_mem hfile
  rw [List.mem_singleton.mp hkey]
  decide

/-- Different output keys can lead to one file, where the type that is written last is left. -/
theorem output_keys_can_lead_to_one_file :
    ofTypes twins = .ok (layOut twins) ∧ (layOut twins).NamesUnmarked ∧
      (Settings.validate { outputPrefix := "" }).isOk = true ∧
      ((layOut twins).generate { outputPrefix := "" } .never).units = [twinFile "Shop", twinFile "./Shop"] ∧
      (twinFile "Shop").outputKey ≠ (twinFile "./Shop").outputKey ∧
      (twinFile "Shop").text ≠ (twinFile "./Shop").text ∧
      ((Command.writeUnits "out" [twinFile "Shop", twinFile "./Shop"] : Command.Work (StateM FileTree) Unit).on
        {} {}).1.1.isOk = true ∧
      ((Command.writeUnits "out" [twinFile "Shop", twinFile "./Shop"] : Command.Work (StateM FileTree) Unit).on
        {} {}).2.read (Path.join "out" (twinFile "Shop").outputKey) = .ok (twinFile "./Shop").text :=
  ⟨rfl, by decide +kernel, by decide +kernel, by decide +kernel, by decide +kernel, by decide +kernel,
    by decide +kernel, by decide +kernel⟩

end Graph

end WireShadow
