import Mathlib.Algebra.Group.Nat.Defs
import WireShadow.Proofs.Description
import WireShadow.Proofs.Placement
import WireShadow.Proofs.Verdict
import WireShadow.Proofs.WordCursor

namespace WireShadow

namespace TagSet

theorem mem_foldl_insert {tags : List Nat} {s : TagSet} {t : Nat} :
    t ∈ tags.foldl insert s ↔ t ∈ tags ∨ t ∈ s := by
  induction tags generalizing s with
  | nil => simp
  | cons x xs ih => rw [List.foldl_cons, ih, mem_insert, List.mem_cons, or_assoc, or_left_comm]

theorem mem_ofList {tags : List Nat} {t : Nat} : t ∈ ofList tags ↔ t ∈ tags :=
  mem_foldl_insert.trans (or_iff_left List.not_mem_nil)

theorem length_ofList_le (tags : List Nat) : (ofList tags).tags.length ≤ tags.length := by
  have hnodup : (ofList tags).tags.Nodup := (ofList tags).ascending.imp Nat.ne_of_lt
  exact hnodup.length_le_of_subset fun _ => mem_ofList.mp

end TagSet

theorem firstTags_assignTags (claimed : TagSet) (count : Nat) :
    FirstTags (fun t => 1 ≤ t ∧ t ∉ claimed) (assignTags claimed count) :=
  ((TagAllocator.mk claimed 1).run_allocateMany count).firstTags

theorem length_assignTags (claimed : TagSet) (count : Nat) : (assignTags claimed count).length = count :=
  (TagAllocator.mk claimed 1).length_allocateMany count

namespace Member

variable {ms : List Member} {tags : List Nat}

def withTag (m : Member) (tag : Nat) : Member := { m with tag }

theorem map_tag_zipWith (h : ms.length = tags.length) :
    (List.zipWith withTag ms tags).map (·.tag) = tags := by
  have hsnd := List.map_snd_zip (Nat.le_of_eq h.symm)
  rw [List.map_zip_eq_zipWith] at hsnd
  rw [List.map_zipWith]
  exact hsnd

theorem map_withTag_zipWith (h : ms.length = tags.length) (n : Nat) :
    (List.zipWith withTag ms tags).map (·.withTag n) = ms.map (·.withTag n) := by
  have hfst := List.map_fst_zip (Nat.le_of_eq h)
  rw [List.map_zip_eq_zipWith] at hfst
  conv_rhs => rw [← hfst]
  rw [List.map_zipWith, List.map_zipWith]
  rfl

end Member

namespace Property

variable {g : Graph} {v : Vocabulary} {custom : Option String} {p : Property}

/-- The member of some shape that stands for a property, with the tag zero. Only a helper is written with the types
that the collection is made of. -/
def shadow (custom : Option String) (p : Property) (shape : Shape) : Member where
  property := p.name
  typeText := CSharp.typeText p.type
  shape := shape
  element0 := if shape.isHelper then p.type.arguments[0]?.map CSharp.typeText else none
  element1 := if shape.isHelper then p.type.arguments[1]?.map CSharp.typeText else none
  isInitOnly := p.setter.any (·.isInitOnly)
  customAttribute := custom
  tag := 0

def shadows (g : Graph) (v : Vocabulary) (custom : Option String) (p : Property) : List Member :=
  match p.verdict g v with
  | .generate shape _ => p.shadow custom .plain :: if shape.isHelper then [p.shadow custom shape] else []
  | _ => []

theorem map_withTag_shadows (g : Graph) (v : Vocabulary) (custom : Option String) (p : Property) :
    (p.shadows g v custom).map (·.withTag 0) = p.shadows g v custom := by
  unfold shadows
  cases p.verdict g v with
  | generate shape isInitOnly => cases shape <;> rfl
  | «static» | skipped | missingContract | notAuto | missingAccessor => rfl

theorem map_withTag_flatMap_shadows (ps : List Property) :
    (ps.flatMap (·.shadows g v custom)).map (·.withTag 0) = ps.flatMap (·.shadows g v custom) := by
  rw [List.map_flatMap]
  simp only [map_withTag_shadows]

theorem length_shadows_le (g : Graph) (v : Vocabulary) (custom : Option String) (p : Property) :
    (p.shadows g v custom).length + 2 * (p.claimed? g v).toList.length ≤ 2 := by
  unfold shadows claimed?
  cases p.verdict g v with
  | generate shape isInitOnly => cases shape <;> simp [Shape.isHelper]
  | skipped tag => cases tag <;> simp
  | «static» | missingContract | notAuto | missingAccessor => simp

theorem length_shadows_add_le (g : Graph) (v : Vocabulary) (custom : Option String) (ps : List Property) :
    (ps.flatMap (·.shadows g v custom)).length + 2 * (ps.filterMap (·.claimed? g v)).length ≤
      2 * ps.length := by
  rw [List.filterMap_eq_flatMap_toList]
  induction ps with
  | nil => exact Nat.le_refl 0
  | cons p ps ih =>
      have hp := length_shadows_le g v custom p
      simp only [List.flatMap_cons, List.length_append, List.length_cons]
      omega

end Property

namespace Candidate

theorem member_eq {c : Candidate} (h : c.isInitOnly = c.property.isInitOnly) (custom : Option String) (shape : Shape)
    (tag : Nat) : c.member custom shape tag = (c.property.shadow custom shape).withTag tag := by
  rw [member, h, CSharp.typeTexts_eq_map]
  cases hshape : shape.isHelper <;> simp [Property.shadow, Member.withTag, Property.isInitOnly, hshape]

def shadows (custom : Option String) (candidates : List Candidate) : List Member :=
  candidates.flatMap fun c => c.shape.members.map fun shape => c.member custom shape 0

theorem members_cons (custom : Option String) (a : TagAllocator) (c : Candidate) (cs : List Candidate) :
    members custom a (c :: cs) =
      List.zipWith (c.member custom) c.shape.members (a.allocateMany c.shape.members.length).1 ++
        members custom (a.allocateMany c.shape.members.length).2 cs := by
  change List.map _ _ ++ _ = _
  rw [List.map_zip_eq_zipWith]
  rfl

theorem members_eq (custom : Option String) (a : TagAllocator) (candidates : List Candidate) :
    members custom a candidates =
      List.zipWith Member.withTag (shadows custom candidates)
        (a.allocateMany (shadows custom candidates).length).1 := by
  induction candidates generalizing a with
  | nil => rfl
  | cons c candidates ih =>
      have hlen : (c.shape.members.map fun shape => c.member custom shape 0).length =
          (a.allocateMany c.shape.members.length).1.length := by
        rw [List.length_map, TagAllocator.length_allocateMany]
      have hsplit : shadows custom (c :: candidates) =
          (c.shape.members.map fun shape => c.member custom shape 0) ++ shadows custom candidates := rfl
      rw [hsplit, List.length_append, TagAllocator.allocateMany_add, List.length_map,
        List.zipWith_append hlen, ← ih, List.zipWith_map_left, members_cons]
      rfl

theorem shadows_filterMap (g : Graph) (v : Vocabulary) (custom : Option String) (ps : List Property) :
    shadows custom (ps.filterMap (·.candidate? g v)) = ps.flatMap (·.shadows g v custom) := by
  induction ps with
  | nil => rfl
  | cons p ps ih =>
      rw [List.flatMap_cons, ← ih, List.filterMap_cons, Property.candidate?, Property.shadows]
      cases hverdict : p.verdict g v with
      | generate shape isInitOnly =>
          obtain ⟨-, -, -, -, rfl⟩ := Property.verdict_eq_generate_iff.mp hverdict
          have hmember (s : Shape) : member { property := p, shape, isInitOnly := p.isInitOnly } custom s 0 =
              (p.shadow custom s).withTag 0 := member_eq rfl custom s 0
          change (shape.members.map fun s => member _ custom s 0) ++ _ = _
          rw [List.map_congr_left fun s _ => hmember s]
          cases shape <;> rfl
      | «static» | skipped | missingContract | notAuto | missingAccessor => rfl

end Candidate

/-- A tag is free for the members of a type if no property that is not static claims it, wherever in the
type that property stands. -/
def TypeDecl.IsFreeTag (v : Vocabulary) (decl : TypeDecl) (t : Nat) : Prop :=
  1 ≤ t ∧ ∀ p ∈ decl.properties, p.isStatic = false → p.marker v ≠ .explicit (some t)

namespace TypeNode

variable {g : Graph} {v : Vocabulary} {node : TypeNode}

def shadows (g : Graph) (v : Vocabulary) (node : TypeNode) : List Member :=
  node.decl.properties.flatMap (·.shadows g v (node.decl.customAttribute v))

theorem members_analysis :
    (node.analysis g v).members =
      List.zipWith Member.withTag (node.shadows g v)
        (assignTags (node.analysis g v).claimed (node.shadows g v).length) := by
  have h := Candidate.members_eq (node.decl.customAttribute v) { claimed := (node.analysis g v).claimed }
    (node.analysis g v).candidates
  rw [analysis, Candidate.shadows_filterMap] at h
  exact h

theorem mem_claimed_analysis {t : Nat} :
    t ∈ (node.analysis g v).claimed ↔
      ∃ p ∈ node.decl.properties, p.isStatic = false ∧ p.marker v = .explicit (some t) := by
  rw [analysis, TagSet.mem_ofList, List.mem_filterMap]
  simp only [Property.claimed?_eq_some_iff]

theorem firstTags_analysis (count : Nat) :
    FirstTags (node.decl.IsFreeTag v) (assignTags (node.analysis g v).claimed count) := by
  have hfree (t : Nat) : node.decl.IsFreeTag v t ↔ 1 ≤ t ∧ t ∉ (node.analysis g v).claimed := by
    rw [mem_claimed_analysis]
    simp [TypeDecl.IsFreeTag]
  have h := firstTags_assignTags (node.analysis g v).claimed count
  exact h.mono (fun t => (hfree t).mp) fun t ht => (hfree t).mpr (h.allFree t ht)

theorem length_shadows_add_le (g : Graph) (v : Vocabulary) (node : TypeNode) :
    (node.shadows g v).length + 2 * (node.analysis g v).claimed.tags.length ≤
      2 * node.decl.properties.length := by
  have hclaimed := TagSet.length_ofList_le (node.decl.properties.filterMap (·.claimed? g v))
  have hsum := Property.length_shadows_add_le g v (node.decl.customAttribute v) node.decl.properties
  change _ + 2 * (TagSet.ofList _).tags.length ≤ _
  rw [shadows]
  omega

theorem map_withTag_members : (node.analysis g v).members.map (·.withTag 0) = node.shadows g v := by
  rw [members_analysis, Member.map_withTag_zipWith (length_assignTags _ _).symm]
  exact Property.map_withTag_flatMap_shadows _

theorem map_tag_members :
    (node.analysis g v).members.map (·.tag) =
      assignTags (node.analysis g v).claimed (node.shadows g v).length := by
  rw [members_analysis, Member.map_tag_zipWith (length_assignTags _ _).symm]

theorem firstTags_members : FirstTags (node.decl.IsFreeTag v) ((node.analysis g v).members.map (·.tag)) := by
  rw [map_tag_members]
  exact firstTags_analysis _

end TypeNode

namespace TypeDescriptor

/-- A cursor in a word of 32 bits that gives out the tags of the members never leaves the word. -/
def FitsWord (d : TypeDescriptor) : Prop :=
  (WordCursor.allocateMany d.claimed 1 d.members.length).map (·.map UInt32.toNat) =
    some (d.members.map (·.tag))

end TypeDescriptor

namespace TypeNode

variable {g : Graph} {v : Vocabulary} {node : TypeNode}

theorem next_allocateMany_lt (hcount : node.decl.properties.length ≤ 2 ^ 31 - 1) :
    ((TagAllocator.mk (node.analysis g v).claimed 1).allocateMany (node.shadows g v).length).2.next <
      UInt32.size := by
  have hnext := TagAllocator.next_allocateMany_le (node.analysis g v).claimed 1 (node.shadows g v).length
  have hsum := length_shadows_add_le g v node
  change _ < 2 ^ 32
  omega

theorem fitsWord_descriptor (hcount : node.decl.properties.length ≤ 2 ^ 31 - 1)
    (heads : TypeHead × List TypeHead) : ((node.analysis g v).descriptor heads).FitsWord := by
  have hlen : (node.analysis g v).members.length = (node.shadows g v).length := by
    rw [← map_withTag_members, List.length_map]
  change (WordCursor.allocateMany (node.analysis g v).claimed 1 (node.analysis g v).members.length).map _ =
    some ((node.analysis g v).members.map (·.tag))
  rw [hlen, map_tag_members]
  exact WordCursor.allocateMany_eq _ _ _ (next_allocateMany_lt hcount)

theorem exists_describedAs (hroot : node.decl.isRoot v)
    (hkind : ∀ e ∈ node :: g.enclosing node, e.decl.kind ≠ .enum) :
    ∃ heads, node.DescribedAs g v ((node.analysis g v).descriptor heads) := by
  obtain ⟨heads, hheads⟩ := RootAnalysis.exists_heads (a := node.analysis g v)
    (Graph.outermostEnum_eq_none hkind)
  exact ⟨heads, describedAs_descriptor hroot hheads⟩

theorem DescribedAs.members_eq (hroot : node.decl.isRoot v)
    (hkind : ∀ e ∈ node :: g.enclosing node, e.decl.kind ≠ .enum) {d : TypeDescriptor}
    (h : node.DescribedAs g v d) : d.members = (node.analysis g v).members := by
  obtain ⟨heads, hd⟩ := exists_describedAs hroot hkind
  cases h.symm.trans hd
  rfl

end TypeNode

namespace Sample

def number : TypeRef := { name := "System.Int32", kind := .primitive }

def numbers : TypeRef :=
  { name := "System.Collections.Generic.IEnumerable", kind := .interface, arguments := [number] }

def property (name : String) (type : TypeRef) (attributes : List Attribute) : Property :=
  { name, type, getter := some {}, setter := some {}, attributes }

def tagged (tag : Int64) : List Attribute := [{ name := "ProtoBuf.ProtoMember", arguments := [.int tag] }]

def order : TypeDecl :=
  { name := "Order", isPartial := true, attributes := [{ name := "ProtoBuf.ProtoContract" }]
    properties :=
      [{ property "Count" number (tagged 1) with isStatic := true }, property "Id" number [],
        property "Lines" numbers [], property "Owner" { name := "Shop.Owner" } [], property "Total" number [],
        property "Old" number (tagged 3)] }

def shade : TypeDecl :=
  { name := "Shade", isPartial := true, attributes := [{ name := "ProtoBuf.ProtoContract" }]
    properties := [property "Id" number []] }

def types : List DeclTree :=
  [.node { name := "Shop", namespaceName := "Test", isPartial := true } [.node order []],
    .node { name := "Colors", namespaceName := "Test", kind := .enum } [.node shade []]]

def graph : Graph := Graph.layOut types

def orderNode : TypeNode :=
  { id := 1, decl := order, parent := some 0, children := [], qualifiedName := "Test.Shop.Order"
    namespaceName := "Test" }

theorem ofTypes_types : Graph.ofTypes types = .ok graph := rfl

theorem orderNode_mem : orderNode ∈ graph.nodes := .tail _ (.head _)

theorem isRoot_order : orderNode.decl.isRoot {} = true := by decide +kernel

theorem orderNode_mem_roots : orderNode ∈ graph.roots {} := List.mem_filter.mpr ⟨orderNode_mem, isRoot_order⟩

theorem kind_ne_enum : ∀ e ∈ orderNode :: graph.enclosing orderNode, e.decl.kind ≠ .enum := by
  have hnode : ∃ shop, graph.node? 0 = some shop ∧ shop.decl.kind = .class ∧ shop.parent = none :=
    ⟨_, rfl, rfl, rfl⟩
  obtain ⟨shop, hnode, hkind, hparent⟩ := hnode
  simp [Graph.enclosing, Graph.outwards, orderNode, order, hnode, hkind, hparent]

def members : List Member :=
  [{ property := "Id", typeText := "int", tag := 1 },
    { property := "Lines", typeText := "global::System.Collections.Generic.IEnumerable<int>", tag := 2 },
    { property := "Lines", typeText := "global::System.Collections.Generic.IEnumerable<int>", shape := .lazySequence
      element0 := some "int", tag := 4 },
    { property := "Total", typeText := "int", tag := 5 }]

theorem members_order : (orderNode.analysis graph {}).members = members := by decide +kernel

theorem tags_members : (orderNode.analysis graph {}).members.map (·.tag) = [1, 2, 4, 5] :=
  congrArg (List.map (·.tag)) members_order

end Sample

namespace TypeNode

open Sample

variable {g : Graph} {v : Vocabulary} {node : TypeNode}

/-- Every property that is shadowed gets its members in the order of declaration, and these take the
first free tags in that order. -/
theorem members_take_first_free_tags (hroot : node.decl.isRoot v)
    (hkind : ∀ e ∈ node :: g.enclosing node, e.decl.kind ≠ .enum)
    (hcount : node.decl.properties.length ≤ 2 ^ 31 - 1) :
    ∃ d, node.DescribedAs g v d ∧
      d.members.map (·.withTag 0) =
        node.decl.properties.flatMap (·.shadows g v (node.decl.customAttribute v)) ∧
      FirstTags (node.decl.IsFreeTag v) (d.members.map (·.tag)) ∧ d.FitsWord := by
  obtain ⟨heads, hd⟩ := exists_describedAs hroot hkind
  exact ⟨_, hd, map_withTag_members, firstTags_members, fitsWord_descriptor hcount heads⟩

theorem members_take_first_free_tags_order :
    orderNode.decl.isRoot {} ∧
      (∀ e ∈ orderNode :: graph.enclosing orderNode, e.decl.kind ≠ .enum) ∧
      orderNode.decl.properties.length ≤ 2 ^ 31 - 1 ∧
      ∃ d, orderNode.DescribedAs graph {} d ∧
        d.members.map (·.withTag 0) =
          orderNode.decl.properties.flatMap (·.shadows graph {} (orderNode.decl.customAttribute {})) ∧
        FirstTags (orderNode.decl.IsFreeTag {}) (d.members.map (·.tag)) ∧ d.FitsWord ∧
        d.members = Sample.members := by
  have hcount : orderNode.decl.properties.length ≤ 2 ^ 31 - 1 := by decide
  refine ⟨isRoot_order, kind_ne_enum, hcount, ?_⟩
  obtain ⟨d, hd, hmembers, htags, hfits⟩ := members_take_first_free_tags isRoot_order kind_ne_enum hcount
  exact ⟨d, hd, hmembers, htags, hfits, (hd.members_eq isRoot_order kind_ne_enum).trans members_order⟩

end TypeNode

end WireShadow
