import Mathlib.Data.Nat.Count
import WireShadow.Proofs.MemberTags

namespace WireShadow

/-- The tags that are given out are those free ones that have fewer free ones below them than are given out. -/
theorem FirstTags.mem_iff {free : Nat → Prop} [DecidablePred free] {tags : List Nat} (h : FirstTags free tags)
    {t : Nat} : t ∈ tags ↔ free t ∧ Nat.count free t < tags.length := by
  have hcard : tags.toFinset.card = tags.length := List.toFinset_card_of_nodup (h.ascending.imp Nat.ne_of_lt)
  rw [Nat.count_eq_card_filter_range, ← hcard]
  constructor
  · intro ht
    refine ⟨h.allFree t ht, Finset.card_lt_card ?_⟩
    refine Finset.ssubset_iff_subset_ne.mpr ⟨fun u hu => ?_, fun heq => ?_⟩
    · obtain ⟨hlt, hfree⟩ := Finset.mem_filter.mp hu
      by_contra hnot
      have hbehind := h.least u hfree (mt List.mem_toFinset.mpr hnot) t ht
      exact Nat.lt_asymm hbehind (Finset.mem_range.mp hlt)
    · have hmem := heq ▸ List.mem_toFinset.mpr ht
      exact Nat.lt_irrefl t (Finset.mem_range.mp (Finset.mem_filter.mp hmem).1)
  · rintro ⟨hfree, hcount⟩
    by_contra hnot
    refine Nat.not_lt.mpr (Finset.card_le_card fun u hu => ?_) hcount
    have hu := List.mem_toFinset.mp hu
    exact Finset.mem_filter.mpr ⟨Finset.mem_range.mpr (h.least t hfree hnot u hu), h.allFree u hu⟩

instance (v : Vocabulary) (decl : TypeDecl) : DecidablePred (decl.IsFreeTag v) := fun _ =>
  inferInstanceAs (Decidable (_ ∧ ∀ p ∈ decl.properties, _ → _))

namespace Sample

/-- Derived types are in the slots one, which the member for `Id` takes, and two, which `Old` claims. -/
def parcel : TypeDecl :=
  { name := "Parcel", namespaceName := "Shop", isPartial := true
    attributes :=
      [{ name := "ProtoBuf.ProtoContract" },
        { name := "ProtoBuf.ProtoInclude", arguments := [.int 1, .type "Shop.Letter"] },
        { name := "ProtoBuf.ProtoInclude", arguments := [.int 2, .type "Shop.Box"] }]
    properties := [property "Id" number [], property "Old" number (tagged 2)] }

def parcels : Graph := Graph.layOut [.node parcel []]

def parcelNode : TypeNode :=
  { id := 0, decl := parcel, parent := none, children := [], qualifiedName := "Shop.Parcel", namespaceName := "Shop" }

theorem ofTypes_parcel : Graph.ofTypes [.node parcel []] = .ok parcels := rfl

theorem isRoot_parcel : parcelNode.decl.isRoot {} = true := by decide +kernel

theorem parcelNode_mem_roots : parcelNode ∈ parcels.roots {} := List.mem_filter.mpr ⟨.head _, isRoot_parcel⟩

theorem inclusions_parcel :
    parcel.inclusions {} = [⟨some 1, some "Shop.Letter"⟩, ⟨some 2, some "Shop.Box"⟩] := by decide +kernel

theorem exists_describedAs_parcel : ∃ d, parcelNode.DescribedAs parcels {} d ∧ d.members.map (·.tag) = [1] := by
  have hkind : ∀ e ∈ parcelNode :: parcels.enclosing parcelNode, e.decl.kind ≠ .enum := by
    simp [Graph.enclosing, Graph.outwards, parcelNode, parcel]
  obtain ⟨heads, hd⟩ := TypeNode.exists_describedAs isRoot_parcel hkind
  have htags : (parcelNode.analysis parcels {}).members.map (·.tag) = [1] := by decide +kernel
  exact ⟨_, hd, htags⟩

end Sample

namespace TypeNode

open Sample

variable {g : Graph} {v : Vocabulary} {node : TypeNode}

/-- Derived types play no part in the choice of tags: a slot is the tag of a member if it is a free tag with fewer
free ones below it than there are members, and else not. -/
theorem slot_taken_iff {d : TypeDescriptor} (hroot : node.decl.isRoot v) (hd : node.DescribedAs g v d)
    (hcount : node.decl.properties.length ≤ 2 ^ 31 - 1) :
    d.FitsWord ∧
      ∀ i ∈ node.decl.inclusions v, ∀ slot, i.slot = some slot →
        ((∃ m ∈ d.members, (m.tag : Int) = slot.toInt) ↔
          node.decl.IsFreeTag v slot.toInt.toNat ∧
            Nat.count (node.decl.IsFreeTag v) slot.toInt.toNat < d.members.length) := by
  obtain ⟨heads, rfl⟩ := hd.exists_heads hroot
  refine ⟨fitsWord_descriptor hcount heads, fun i _ slot _ => ?_⟩
  have hfirst : FirstTags (node.decl.IsFreeTag v) ((node.analysis g v).members.map (·.tag)) := firstTags_members
  have hmem := hfirst.mem_iff (t := slot.toInt.toNat)
  rw [List.length_map] at hmem
  change (∃ m ∈ (node.analysis g v).members, (m.tag : Int) = slot.toInt) ↔ _
  refine Iff.trans ⟨?_, fun h => ?_⟩ hmem
  · rintro ⟨m, hm, htag⟩
    exact List.mem_map.mpr ⟨m, hm, (Int.toNat_natCast m.tag).symm.trans (congrArg Int.toNat htag)⟩
  · obtain ⟨m, hm, htag⟩ := List.mem_map.mp h
    have hone : 1 ≤ slot.toInt.toNat := (hfirst.allFree _ h).1
    exact ⟨m, hm, by omega⟩

theorem slot_taken_iff_parcel :
    parcelNode.decl.isRoot {} ∧ parcelNode.decl.properties.length ≤ 2 ^ 31 - 1 ∧
      (parcel.inclusions {}).map (·.slot) = [some 1, some 2] ∧ ∃ d, parcelNode.DescribedAs parcels {} d ∧ d.FitsWord ∧
        (∃ m ∈ d.members, (m.tag : Int) = (1 : Int64).toInt) ∧
        ¬∃ m ∈ d.members, (m.tag : Int) = (2 : Int64).toInt := by
  obtain ⟨d, hd, htags⟩ := exists_describedAs_parcel
  have hcount : parcelNode.decl.properties.length ≤ 2 ^ 31 - 1 := by decide
  obtain ⟨hfits, hslots⟩ := slot_taken_iff isRoot_parcel hd hcount
  have hlength : d.members.length = 1 := by rw [← List.length_map, htags, List.length_singleton]
  change ∀ i ∈ parcel.inclusions {}, _ at hslots
  rw [inclusions_parcel, hlength] at hslots
  refine ⟨isRoot_parcel, hcount, by rw [inclusions_parcel]; rfl, d, hd, hfits, ?_, ?_⟩
  · exact (hslots _ (.head _) 1 rfl).mpr (by decide +kernel)
  · exact (hslots _ (.tail _ (.head _)) 2 rfl).not.mpr (by decide +kernel)

end TypeNode

namespace Graph

open Sample

theorem tags_can_meet_slots :
    ¬∀ (types : List DeclTree) (g : Graph) (v : Vocabulary) (node : TypeNode) (d : TypeDescriptor),
      ofTypes types = .ok g → node ∈ g.roots v → node.DescribedAs g v d →
        ∀ i ∈ node.decl.inclusions v, ∀ slot, i.slot = some slot →
          ∀ m ∈ d.members, (m.tag : Int) ≠ slot.toInt := by
  intro h
  obtain ⟨d, hd, htags⟩ := exists_describedAs_parcel
  obtain ⟨m, hm, htag⟩ : ∃ m ∈ d.members, m.tag = 1 := List.mem_map.mp (htags ▸ List.mem_singleton_self 1)
  have hslot : { slot := some 1, derived := some "Shop.Letter" } ∈ parcel.inclusions {} :=
    inclusions_parcel ▸ List.mem_cons_self
  exact h _ parcels {} parcelNode d ofTypes_parcel parcelNode_mem_roots hd _ hslot 1 rfl m hm (by rw [htag]; rfl)

end Graph

end WireShadow
