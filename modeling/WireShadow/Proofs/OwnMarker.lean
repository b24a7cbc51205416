import WireShadow.Proofs.ElementTypes
import WireShadow.Proofs.Lists
import WireShadow.Proofs.Marker
import WireShadow.Proofs.MemberStability
import WireShadow.Proofs.NormalNames

namespace WireShadow

namespace TypeName

open Text

/-- A name that has nothing more to lose at its end: no blanks and no ending of an attribute class. -/
structure Stripped (name : String) : Prop where
  back : ∀ c ∈ name.toList.getLast?, isBlank c = false
  bare : ¬attributeEnding <:+ name.toList

def trimEnd (name : String) : String := String.ofList (name.toList.rdropWhile isBlank)

variable {name stem : String}

theorem trimEnd_eq_self_iff : trimEnd name = name ↔ ∀ c ∈ name.toList.getLast?, isBlank c = false := by
  rw [trimEnd, ← String.toList_inj, String.toList_ofList, rdropWhile_isBlank_eq_self_iff]

theorem isPrefix_trimEnd (name : String) : (trimEnd name).toList <+: name.toList := by
  rw [trimEnd, String.toList_ofList]
  exact List.rdropWhile_prefix isBlank _

theorem normalize_rooted_eq_trimEnd (name : String) : normalize (rooted name) = trimEnd name := by
  have halias : rootAlias = "global:".toList ++ [':'] := rfl
  have hfront : (rootAlias ++ name.toList).dropWhile isBlank = rootAlias ++ name.toList := rfl
  rw [trimEnd, normalize, toList_rooted, trimChars_eq_rdropWhile, hfront, halias, List.append_assoc,
    List.singleton_append, rdropWhile_append_cons (by decide), List.append_cons, ← halias, dropAlias_append]

theorem trimEnd_normalize (name : String) : trimEnd (normalize name) = normalize name := by
  have hback : ∀ c ∈ (trimChars name.toList).getLast?, isBlank c = false :=
    rdropWhile_isBlank_eq_self_iff.mp (List.rdropWhile_idempotent isBlank _)
  rw [trimEnd_eq_self_iff, toList_normalize]
  by_cases halias : rootAlias <+: trimChars name.toList
  · obtain ⟨rest, hrest⟩ := halias
    rw [← hrest] at hback ⊢
    rw [dropAlias_append]
    intro c hc
    refine hback c ?_
    rwa [List.getLast?_append_of_ne_nil _ (by rintro rfl; cases hc)]
  · rwa [dropAlias_eq_self halias]

theorem stripEnding_append (stem : String) : stripEnding (stem ++ "Attribute") = stem := by
  have hstem : attributeEnding.isSuffixOf? (stem ++ "Attribute").toList = some stem.toList :=
    List.isSuffixOf?_eq_some_iff_append_eq.mpr String.toList_append.symm
  rw [stripEnding, hstem, Option.getD_some, String.ofList_toList]

theorem stripEnding_cases (name : String) :
    (∃ stem, name = stem ++ "Attribute") ∨ ¬attributeEnding <:+ name.toList ∧ stripEnding name = name := by
  cases hrest : attributeEnding.isSuffixOf? name.toList with
  | some rest =>
      refine .inl ⟨String.ofList rest, ?_⟩
      rw [← String.toList_inj, String.toList_append, String.toList_ofList]
      exact (List.isSuffixOf?_eq_some_iff_append_eq.mp hrest).symm
  | none =>
      refine .inr ⟨fun ⟨rest, happend⟩ => ?_, ?_⟩
      · rw [List.isSuffixOf?_eq_some_iff_append_eq.mpr happend] at hrest
        cases hrest
      · rw [stripEnding, hrest, Option.getD_none, String.ofList_toList]

theorem isPrefix_stripEnding (name : String) : (stripEnding name).toList <+: name.toList := by
  rcases stripEnding_cases name with ⟨stem, rfl⟩ | ⟨-, hself⟩
  · rw [stripEnding_append, String.toList_append]
    exact List.prefix_append _ _
  · simp only [hself, List.prefix_rfl]

theorem append_attributeEnding_ne (h : name.toList <+: stem.toList) : name ≠ stem ++ "Attribute" := by
  rintro rfl
  have hle := h.length_le
  rw [String.toList_append, List.length_append] at hle
  exact absurd hle (Nat.not_le_of_lt (Nat.lt_add_of_pos_right (by decide)))

theorem stripEnding_eq_self_iff : stripEnding name = name ↔ ¬attributeEnding <:+ name.toList := by
  rcases stripEnding_cases name with ⟨stem, rfl⟩ | ⟨hbare, hself⟩
  · rw [stripEnding_append]
    refine iff_of_false (append_attributeEnding_ne (List.prefix_refl _)) (not_not_intro ?_)
    rw [String.toList_append]
    exact List.suffix_append _ _
  · exact iff_of_true hself hbare

theorem stripEnding_trimEnd_eq_self_iff : stripEnding (trimEnd name) = name ↔ Stripped name := by
  constructor
  · intro h
    have hprefix := isPrefix_stripEnding (trimEnd name)
    rw [h] at hprefix
    have htrim : trimEnd name = name :=
      String.toList_inj.mp ((isPrefix_trimEnd name).eq_of_length_le hprefix.length_le)
    rw [htrim] at h
    exact ⟨trimEnd_eq_self_iff.mp htrim, stripEnding_eq_self_iff.mp h⟩
  · rintro ⟨hback, hbare⟩
    rw [trimEnd_eq_self_iff.mpr hback, stripEnding_eq_self_iff.mpr hbare]

/-- An attribute is known by its name without the ending, unless this name changes when it is read again. -/
theorem sameAttribute_rooted_stripEnding_iff : sameAttribute (rooted (stripEnding (normalize name))) name = true ↔
    ∀ stem, normalize name = stem ++ "Attribute" → Stripped stem := by
  rw [sameAttribute, Bool.or_eq_true, beq_iff_eq, beq_iff_eq, normalize_rooted_eq_trimEnd]
  rcases stripEnding_cases (normalize name) with ⟨stem, hstem⟩ | ⟨hbare, hself⟩
  · rw [hstem, stripEnding_append, or_iff_right (append_attributeEnding_ne (isPrefix_trimEnd stem)),
      stripEnding_trimEnd_eq_self_iff]
    constructor
    · intro hstripped stem' hsame
      rwa [← (String.append_left_inj _).mp hsame]
    · intro h
      exact h stem rfl
  · rw [hself, trimEnd_normalize]
    refine iff_of_true (.inl rfl) fun stem hstem => absurd ?_ hbare
    rw [hstem, String.toList_append]
    exact List.suffix_append _ _

end TypeName

namespace Attribute

def counted (name : String) (n : Nat) : Attribute := { name, arguments := [.int (Int64.ofNat n)] }

def countedLine (name : String) (n : Nat) : String := "[" ++ name ++ "(" ++ toString n ++ ")]"

theorem bracket_not_mem_toString (n : Nat) : '(' ∉ (toString n).toList := fun h =>
  absurd (TypeRef.isDigit_of_mem_toString h) (by decide)

theorem countedLine_inj {name name' : String} {n n' : Nat} (h : countedLine name n = countedLine name' n') :
    name = name' ∧ n = n' := by
  rw [countedLine, countedLine, String.append_left_inj] at h
  have hlist := congrArg String.toList h
  simp only [String.toList_append, List.append_assoc] at hlist
  obtain ⟨hname, hnumber⟩ := append_cons_inj (bracket_not_mem_toString n) (bracket_not_mem_toString n')
    (List.append_cancel_left hlist)
  exact ⟨String.toList_inj.mp hname, TypeRef.toString_inj hnumber⟩

end Attribute

theorem tagMarker_singleton (v : Vocabulary) (a : Attribute) :
    tagMarker v [a] = if v.isManual a.name then .explicit a.tag? else .untagged := by
  by_cases h : v.isManual a.name <;> simp [tagMarker, TagMarker.claim, h]

theorem Member.attributeLine_of_none {m : Member} (h : m.customAttribute = none) (settings : Settings) :
    m.attributeLine settings = Attribute.countedLine settings.vocabulary.memberText m.tag := by
  rw [attributeLine, h]
  rfl

namespace Property

/-- The property is declared with the attribute of a generated member. -/
structure ReadsBack (p : Property) (text : MemberText) : Prop where
  isInstance : p.isStatic = false
  attributes : ∃ name n, p.attributes = [.counted name n] ∧ text.attributeLine = Attribute.countedLine name n

variable {g : Graph} {v : Vocabulary} {p : Property} {text : MemberText} {name : String} {tag : Nat}

theorem ReadsBack.attributes_eq (h : p.ReadsBack text) (htext : text.attributeLine = Attribute.countedLine name tag) :
    p.attributes = [.counted name tag] := by
  obtain ⟨name', n, hattributes, hline⟩ := h.attributes
  obtain ⟨rfl, rfl⟩ := Attribute.countedLine_inj (htext.symm.trans hline)
  exact hattributes

theorem ReadsBack.marker (h : p.ReadsBack text) (htext : text.attributeLine = Attribute.countedLine name tag)
    (hpos : 1 ≤ tag) (hlt : tag < UInt32.size) :
    p.marker v = if v.isManual name then .explicit (some tag) else .untagged := by
  have htag : (Attribute.counted name tag).tag? = some tag := by
    simp [Attribute.counted, Attribute.tag?, validTag?_ofNat hpos hlt]
  rw [Property.marker, h.attributes_eq htext, tagMarker_singleton, htag]
  rfl

theorem verdict_of_untagged (h : p.marker v = .untagged) :
    p.verdict g v = Property.verdict g v { p with attributes := [] } := by
  have hbare : Property.marker v { p with attributes := [] } = .untagged := rfl
  rw [verdict, verdict, h, hbare]
  rfl

end Property

theorem TypeNode.one_le_tag_of_mem_members {g : Graph} {v : Vocabulary} {node : TypeNode} {m : Member}
    (hm : m ∈ (node.analysis g v).members) : 1 ≤ m.tag :=
  (firstTags_members.allFree m.tag (List.mem_map_of_mem hm)).1

/-- Generated members are known by the attribute they are written with, unless the name of the attribute class changes
when it is read again without its ending. A member that is read back is skipped with its tag if its attribute is known,
and is else no different from a property without attributes. -/
theorem Member.known_by_own_attribute_iff (settings : Settings) :
    (settings.vocabulary.isMember settings.vocabulary.memberText = true ↔
      ∀ stem, TypeName.normalize settings.vocabulary.member = stem ++ "Attribute" → TypeName.Stripped stem) ∧
    ∀ (g : Graph) (node : TypeNode) (d : TypeDescriptor),
      node.decl.isRoot settings.vocabulary → node.DescribedAs g settings.vocabulary d →
      ∀ m ∈ d.members, m.customAttribute = none → m.tag < UInt32.size →
        ∃ text, m.emit settings = .ok text ∧
          text.attributeLine = Attribute.countedLine settings.vocabulary.memberText m.tag ∧
          ∀ (g' : Graph) (p : Property), p.ReadsBack text →
            (settings.vocabulary.isManual settings.vocabulary.memberText = true →
              p.verdict g' settings.vocabulary = .skipped (some m.tag) ∧
                ∀ custom, p.shadows g' settings.vocabulary custom = []) ∧
            (settings.vocabulary.isManual settings.vocabulary.memberText = false →
              p.verdict g' settings.vocabulary =
                Property.verdict g' settings.vocabulary { p with attributes := [] }) := by
  refine ⟨TypeName.sameAttribute_rooted_stripEnding_iff, fun g node d hroot hd m hm hcustom hlt => ?_⟩
  obtain ⟨heads, rfl⟩ := hd.exists_heads hroot
  obtain ⟨text, htext⟩ := Member.exists_emit (TypeNode.not_lacksElement_of_mem_members hm) settings
  have hline : text.attributeLine = Attribute.countedLine settings.vocabulary.memberText m.tag :=
    (Member.emit_eq_ok_iff.mp htext).2.trans (Member.attributeLine_of_none hcustom settings)
  refine ⟨text, htext, hline, fun g' p hp => ?_⟩
  have hmarker := hp.marker (v := settings.vocabulary) hline (TypeNode.one_le_tag_of_mem_members hm) hlt
  refine ⟨fun hmanual => ?_, fun hmanual => ?_⟩
  · rw [hmanual, if_pos rfl] at hmarker
    have hskipped := Property.verdict_explicit (g := g') hp.isInstance hmarker
    exact ⟨hskipped, TypeNode.shadows_of_skipped hskipped⟩
  · rw [hmanual, if_neg Bool.false_ne_true] at hmarker
    exact Property.verdict_of_untagged hmarker

namespace Sample

def copied (name : String) : Property := property "ProtoId" number [.counted name 1]

def doubled : Settings := { vocabulary := { member := "Acme.AttributeAttribute" } }

theorem exists_member_order (v : Vocabulary) (h : ((orderNode.analysis graph v).members.map
    fun m => (m.tag, m.customAttribute)).head? = some (1, none)) :
    ∃ m ∈ (orderNode.analysis graph v).members, m.tag = 1 ∧ m.customAttribute = none := by
  obtain ⟨m, hm, hsame⟩ := List.mem_map.mp (List.mem_of_head? h)
  obtain ⟨htag, hcustom⟩ := Prod.mk.inj hsame
  exact ⟨m, hm, htag, hcustom⟩

end Sample

open Sample in
theorem Member.known_by_own_attribute_iff_order :
    ({} : Vocabulary).isMember ({} : Vocabulary).memberText = true ∧ orderNode.decl.isRoot {} ∧
      ∃ d, orderNode.DescribedAs graph {} d ∧
        ∃ m ∈ d.members, m.customAttribute = none ∧ m.tag < UInt32.size ∧
          ∃ text, m.emit {} = .ok text ∧ (copied "global::ProtoBuf.ProtoMember").ReadsBack text ∧
            (copied "global::ProtoBuf.ProtoMember").verdict graph {} = .skipped (some 1) := by
  obtain ⟨hknown, hmembers⟩ := known_by_own_attribute_iff {}
  have hmember : ({} : Vocabulary).isMember ({} : Vocabulary).memberText = true := by
    refine hknown.mpr fun stem hstem => ?_
    have hname : TypeName.normalize ({} : Vocabulary).member = "ProtoBuf.ProtoMember" ++ "Attribute" := by
      decide +kernel
    rw [← (String.append_left_inj _).mp (hname.symm.trans hstem)]
    exact ⟨TypeName.trimEnd_eq_self_iff.mp (by decide +kernel),
      TypeName.stripEnding_eq_self_iff.mp (by decide +kernel)⟩
  obtain ⟨heads, hd⟩ := TypeNode.exists_describedAs isRoot_order kind_ne_enum
  obtain ⟨m, hm, htag, hcustom⟩ := exists_member_order {} (by decide +kernel)
  have hlt : m.tag < UInt32.size := by rw [htag]; decide
  obtain ⟨text, htext, hline, hread⟩ := hmembers graph orderNode _ isRoot_order hd m hm hcustom hlt
  have hwritten : ({} : Vocabulary).memberText = "global::ProtoBuf.ProtoMember" := by decide +kernel
  rw [htag] at hread
  have hcopied : (copied "global::ProtoBuf.ProtoMember").ReadsBack text := by
    refine ⟨rfl, _, _, rfl, hline.trans ?_⟩
    rw [hwritten, htag]
  have hmanual : ({} : Vocabulary).isManual ({} : Vocabulary).memberText = true :=
    Bool.or_eq_true_iff.mpr (.inl hmember)
  exact ⟨hmember, isRoot_order, _, hd, m, hm, hcustom, hlt, text, htext, hcopied,
    ((hread graph _ hcopied).1 hmanual).1⟩

open Sample in
/-- A member that is written with the attribute `Acme.Attribute` for `Acme.AttributeAttribute` is shadowed again. -/
theorem Member.own_attribute_can_be_unknown :
    doubled.validate.isOk = true ∧ doubled.vocabulary.memberText = "global::Acme.Attribute" ∧
      doubled.vocabulary.isMember doubled.vocabulary.memberText = false ∧
      (∃ m ∈ (orderNode.analysis graph doubled.vocabulary).members, m.customAttribute = none ∧
        ∃ text, m.emit doubled = .ok text ∧ (copied doubled.vocabulary.memberText).ReadsBack text) ∧
      (copied doubled.vocabulary.memberText).verdict graph doubled.vocabulary = .generate .plain false := by
  obtain ⟨m, hm, htag, hcustom⟩ := exists_member_order doubled.vocabulary (by decide +kernel)
  obtain ⟨text, htext⟩ := Member.exists_emit (TypeNode.not_lacksElement_of_mem_members hm) doubled
  have hline : text.attributeLine = Attribute.countedLine doubled.vocabulary.memberText 1 := by
    rw [(emit_eq_ok_iff.mp htext).2, attributeLine_of_none hcustom, htag]
  have hcopied : (copied doubled.vocabulary.memberText).ReadsBack text := ⟨rfl, _, _, rfl, hline⟩
  refine ⟨?_, ?_, ?_, ⟨m, hm, hcustom, text, htext, hcopied⟩, ?_⟩ <;> decide +kernel

example : Vocabulary.isMember { member := "Acme.Tag Attribute" } "global::Acme.Tag" = false := by decide +kernel

end WireShadow
