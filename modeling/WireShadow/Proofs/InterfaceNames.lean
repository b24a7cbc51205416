import WireShadow.Proofs.Classification
import WireShadow.Proofs.NormalNames

namespace WireShadow

namespace Collections

def contract (name : String) : String := String.ofList (TypeName.dropAliases name.toList)

def Decisive (name : String) : Prop := isCollection name = true ∨ name = enumerable

variable {name : String} {t : TypeRef}

theorem contract_normalize (name : String) : contract (TypeName.normalize name) = contract (Text.trim name) := by
  rw [contract, contract, TypeName.toList_normalize, TypeName.dropAliases_dropAlias, Text.trim, String.toList_ofList]

theorem Decisive.trimmed (h : Decisive name) : name.toList ≠ [] ∧ Text.trimChars name.toList = name.toList := by
  have hall : ∀ name ∈ enumerable :: (sequenceInterfaces ++ mapInterfaces),
      name.toList ≠ [] ∧ Text.trimChars name.toList = name.toList := by decide +kernel
  refine hall name ?_
  rcases h with h | rfl
  · rw [isCollection, Bool.or_eq_true, decide_eq_true_eq, decide_eq_true_eq] at h
    exact List.mem_cons_of_mem _ (List.mem_append.mpr h)
  · exact List.mem_cons_self

theorem trim_eq_self_of_decisive (h : Decisive (contract name)) : Text.trim name = name := by
  obtain ⟨hne, htrim⟩ := h.trimmed
  rw [contract, String.toList_ofList] at hne htrim
  rw [Text.trim, TypeName.trimChars_eq_self_of_dropAliases hne htrim, String.ofList_toList]

theorem mem_contracts_iff : name ∈ contracts t ↔
    (∃ entry ∈ known, entry.1 = t.openDefinition ∧ entry.2 = name) ∨
      ∃ listed ∈ t.interfaces, contract listed = name := by
  rw [contracts, List.mem_append, List.mem_map, List.mem_map]
  simp only [List.mem_filter, beq_iff_eq, and_assoc]
  rfl

end Collections

namespace TypeRef

open Collections

/-- The same reference with its interfaces named as every other name is compared. -/
def normalizing (t : TypeRef) : TypeRef := t.listing (t.interfaces.map TypeName.normalize)

/-- Blanks at the ends of a listed name keep it from being read as this contract. -/
def Hides (t : TypeRef) (name : String) : Prop :=
  ∃ listed ∈ t.interfaces, Text.trim listed ≠ listed ∧ contract (Text.trim listed) = name

/-- A collection with a hidden contract that would raise it. -/
structure MissesContract (t : TypeRef) : Prop where
  kind : t.kind = .class ∨ t.kind = .struct
  arguments : t.arguments ≠ []
  definition : t.openDefinition ≠ enumerable
  uncollected : ¬∃ name ∈ contracts t, isCollection name = true
  hidden : (∃ name, t.Hides name ∧ isCollection name = true) ∨ (enumerable ∉ contracts t ∧ t.Hides enumerable)

variable {g : Graph} {v : Vocabulary} {t : TypeRef} {name : String}

theorem mem_contracts_normalizing (h : Decisive name) :
    name ∈ contracts t.normalizing ↔ name ∈ contracts t ∨ t.Hides name := by
  rw [mem_contracts_iff, mem_contracts_iff, or_assoc]
  refine or_congr Iff.rfl ?_
  simp only [normalizing, listing, List.mem_map, exists_exists_and_eq_and, contract_normalize]
  constructor
  · rintro ⟨listed, hmem, hlisted⟩
    by_cases htrim : Text.trim listed = listed
    · exact .inl ⟨listed, hmem, htrim ▸ hlisted⟩
    · exact .inr ⟨listed, hmem, htrim, hlisted⟩
  · -- No decisive contract has blanks at its ends, so a name that is read as one keeps being read so.
    rintro (⟨listed, hmem, hlisted⟩ | ⟨listed, hmem, -, hlisted⟩)
    · exact ⟨listed, hmem, (trim_eq_self_of_decisive (hlisted ▸ h)).symm ▸ hlisted⟩
    · exact ⟨listed, hmem, hlisted⟩

theorem exists_collection_normalizing :
    (∃ name ∈ contracts t.normalizing, isCollection name = true) ↔
      (∃ name ∈ contracts t, isCollection name = true) ∨ ∃ name, t.Hides name ∧ isCollection name = true := by
  rw [← exists_or]
  refine exists_congr fun name => ?_
  rw [← or_and_right]
  exact and_congr_left fun hname => mem_contracts_normalizing (.inl hname)

theorem ne_interface_of_kind (h : t.kind = .class ∨ t.kind = .struct) : t.kind ≠ .interface := by
  rcases h with h | h <;> simp [h]

theorem collectionShape_of_ne_interface (hkind : t.kind ≠ .interface) :
    t.collectionShape = if t.openDefinition = enumerable then some .lazySequence
      else if ∃ name ∈ contracts t, isCollection name = true then some .concreteCollection
      else if enumerable ∈ contracts t then some .lazySequence else none := by
  simp only [collectionShape, hkind, reduceIte, beq_iff_eq, List.any_eq_true]

open Classical in
theorem collectionShape_normalizing (hkind : t.kind ≠ .interface) :
    t.normalizing.collectionShape = if t.openDefinition = enumerable then some .lazySequence
      else if (∃ name ∈ contracts t, isCollection name = true) ∨ ∃ name, t.Hides name ∧ isCollection name = true then
        some .concreteCollection
      else if enumerable ∈ contracts t ∨ t.Hides enumerable then some .lazySequence else none := by
  rw [collectionShape_of_ne_interface (t := t.normalizing) hkind]
  exact if_congr Iff.rfl rfl (if_congr exists_collection_normalizing rfl
    (if_congr (mem_contracts_normalizing (.inr rfl)) rfl rfl))

theorem MissesContract.sublist (h : t.MissesContract) :
    [t.collectionShape, t.normalizing.collectionShape].Sublist
      [none, some .lazySequence, some .concreteCollection] := by
  have hkind := ne_interface_of_kind h.kind
  rw [collectionShape_of_ne_interface hkind, collectionShape_normalizing hkind, if_neg h.definition,
    if_neg h.definition, if_neg h.uncollected]
  by_cases hcollection : ∃ name, t.Hides name ∧ isCollection name = true
  · rw [if_pos (Or.inr hcollection)]
    split <;> decide
  · obtain ⟨hunlisted, hsequence⟩ := h.hidden.resolve_left hcollection
    rw [if_neg (not_or.mpr ⟨h.uncollected, hcollection⟩), if_neg hunlisted, if_pos (.inr hsequence)]
    decide

theorem collectionShape_normalizing_eq (hkind : t.kind = .class ∨ t.kind = .struct) (harguments : t.arguments ≠ [])
    (h : ¬t.MissesContract) : t.normalizing.collectionShape = t.collectionShape := by
  have hne := ne_interface_of_kind hkind
  rw [collectionShape_of_ne_interface hne, collectionShape_normalizing hne]
  refine ite_congr rfl (fun _ => rfl) fun hdefinition => ?_
  by_cases hcollection : ∃ name ∈ contracts t, isCollection name = true
  · rw [if_pos (.inl hcollection), if_pos hcollection]
  have hhidden := fun hhidden => h ⟨hkind, harguments, hdefinition, hcollection, hhidden⟩
  rw [if_neg (not_or.mpr ⟨hcollection, fun hmore => hhidden (.inl hmore)⟩), if_neg hcollection]
  by_cases hsequence : enumerable ∈ contracts t
  · rw [if_pos (.inl hsequence), if_pos hsequence]
  · rw [if_neg (not_or.mpr ⟨hsequence, fun hmore => hhidden (.inr ⟨hsequence, hmore⟩)⟩), if_neg hsequence]

theorem classify_listing_of_not (h : ¬((t.kind = .class ∨ t.kind = .struct) ∧ t.arguments ≠ []))
    (interfaces : List String) : (t.listing interfaces).classify g v = t.classify g v := by
  cases hkind : t.kind with
  | primitive | «enum» | typeParameter | array => simp only [classify, kind_listing, hkind]
  | interface => exact classify_listing_of_collectionShape (collectionShape_listing_of_interface hkind)
  | «class» | struct =>
      have hgeneric : t.isGeneric = false := by simp_all [isGeneric]
      simp only [classify, kind_listing, isGeneric_listing, hgeneric, Bool.false_eq_true, if_false,
        classifyNamed_listing]

theorem classify_normalizing_sublist (h : t.MissesContract) :
    [t.classify g v, t.normalizing.classify g v].Sublist (t.ladder g v) := by
  have hkind : t.kind = .class ∨ t.kind = .struct ∨ t.kind = .interface := or_assoc.mp (.inl h.kind)
  have hgeneric : t.isGeneric = true := by rcases h.kind with hkind | hkind <;> simp [isGeneric, hkind, h.arguments]
  have hgeneric' : t.normalizing.isGeneric = true := hgeneric
  rw [classify_of_kind hkind, classify_of_kind (t := t.normalizing) hkind, if_pos hgeneric, if_pos hgeneric']
  exact h.sublist.map fun shape? => shape?.elim (t.classifyNamed g v) .shape

theorem classify_normalizing_eq (h : ¬t.MissesContract) : t.normalizing.classify g v = t.classify g v := by
  by_cases hgeneric : (t.kind = .class ∨ t.kind = .struct) ∧ t.arguments ≠ []
  · exact classify_listing_of_collectionShape (collectionShape_normalizing_eq hgeneric.1 hgeneric.2 h)
  · exact classify_listing_of_not hgeneric _

theorem Hides.exists_blank (h : t.Hides name) : ∃ listed ∈ t.interfaces, Text.trim listed ≠ listed :=
  h.imp fun _ hlisted => ⟨hlisted.1, hlisted.2.1⟩

/-- Interfaces are read as if their names were normalized first, except where blanks at the ends of one hide a
contract from a collection, which is then classified below what it is. -/
theorem classify_normalizing_eq_iff (g : Graph) (v : Vocabulary) (t : TypeRef) :
    (t.normalizing.classify g v = t.classify g v ↔ ¬t.MissesContract) ∧
    (t.MissesContract → [t.classify g v, t.normalizing.classify g v].Sublist (t.ladder g v)) ∧
    (t.MissesContract → ∃ name ∈ t.interfaces, Text.trim name ≠ name) := by
  refine ⟨⟨fun heq h => ?_, classify_normalizing_eq⟩, classify_normalizing_sublist, fun h => ?_⟩
  · have hnodup := (classify_normalizing_sublist (g := g) (v := v) h).nodup nodup_ladder
    simp [heq] at hnodup
  · rcases h.hidden with ⟨name, hname, -⟩ | ⟨-, hname⟩ <;> exact hname.exists_blank

end TypeRef

namespace Sample

def paddedBag : TypeRef := bag.listing ["System.Collections.Generic.IList`1 "]

end Sample

open Sample in
theorem TypeRef.classify_normalizing_eq_iff_paddedBag :
    paddedBag.MissesContract ∧
      [paddedBag.classify {} {}, paddedBag.normalizing.classify {} {}].Sublist (paddedBag.ladder {} {}) := by
  have hmisses : paddedBag.MissesContract :=
    { kind := .inl rfl
      arguments := by decide
      definition := by decide +kernel
      uncollected := by decide +kernel
      hidden := .inl ⟨"System.Collections.Generic.IList`1",
        ⟨"System.Collections.Generic.IList`1 ", by decide, by decide +kernel, by decide +kernel⟩, by decide +kernel⟩ }
  obtain ⟨-, hsublist, -⟩ := classify_normalizing_eq_iff {} {} paddedBag
  exact ⟨hmisses, hsublist hmisses⟩

open Sample in
theorem TypeRef.classify_normalizing_paddedBag :
    paddedBag.normalizing.interfaces = ["System.Collections.Generic.IList`1"] ∧
      paddedBag.classify {} {} = .missingContract "Acme.Bag" ∧
      paddedBag.normalizing.classify {} {} = .shape .concreteCollection := by
  decide +kernel

end WireShadow
