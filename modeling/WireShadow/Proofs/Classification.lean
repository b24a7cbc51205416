import WireShadow.Proofs.ElementTypes

namespace WireShadow

namespace TypeRef

open Collections

def listing (t : TypeRef) (interfaces : List String) : TypeRef := { t with interfaces }

/-- What a class or struct with type arguments can be classified as, in the order in which listed
interfaces raise it. -/
def ladder (g : Graph) (v : Vocabulary) (t : TypeRef) : List Classification :=
  [t.classifyNamed g v, .shape .lazySequence, .shape .concreteCollection]

section Listing

variable (t : TypeRef) (interfaces : List String)

@[simp] theorem kind_listing : (t.listing interfaces).kind = t.kind := rfl

@[simp] theorem isGeneric_listing : (t.listing interfaces).isGeneric = t.isGeneric := rfl

@[simp] theorem openDefinition_listing : (t.listing interfaces).openDefinition = t.openDefinition := rfl

@[simp] theorem classifyNamed_listing (g : Graph) (v : Vocabulary) :
    (t.listing interfaces).classifyNamed g v = t.classifyNamed g v := rfl

end Listing

variable {g : Graph} {v : Vocabulary} {t : TypeRef} {interfaces : List String} {shape : Shape}

theorem contracts_subset_listing (h : t.interfaces ⊆ interfaces) :
    contracts t ⊆ contracts (t.listing interfaces) := by
  intro name hname
  rcases List.mem_append.mp hname with hknown | hlisted
  · exact List.mem_append_left _ hknown
  · exact List.mem_append_right _ (List.map_subset _ h hlisted)

theorem collectionShape_listing_of_interface (hkind : t.kind = .interface) :
    (t.listing interfaces).collectionShape = t.collectionShape := by
  simp only [collectionShape, openDefinition_listing, kind_listing, hkind, reduceIte]
  rfl

theorem collectionShape_listing_of_ne_interface (hkind : t.kind ≠ .interface)
    (h : t.interfaces ⊆ interfaces) :
    (t.listing interfaces).collectionShape = t.collectionShape ∨
      [t.collectionShape, (t.listing interfaces).collectionShape].Sublist
        [none, some .lazySequence, some .concreteCollection] := by
  have hmore := contracts_subset_listing h
  simp only [collectionShape, openDefinition_listing, kind_listing, hkind, reduceIte]
  by_cases hdefinition : t.openDefinition == enumerable
  · simp only [hdefinition, reduceIte, true_or]
  -- The first contract found decides, and a collection's is looked for before a sequence's.
  simp only [hdefinition, Bool.false_eq_true, reduceIte, List.any_eq_true]
  by_cases hcollection : ∃ name ∈ contracts t, isCollection name = true
  · have hcollection' : ∃ name ∈ contracts (t.listing interfaces), isCollection name = true :=
      hcollection.imp fun name hname => hname.imp_left fun hmem => hmore hmem
    simp only [hcollection, hcollection', reduceIte, true_or]
  · rw [if_neg hcollection]
    by_cases hsequence : enumerable ∈ contracts t
    · rw [if_pos hsequence, if_pos (hmore hsequence)]
      split
      · exact .inr (by decide)
      · exact .inl rfl
    · rw [if_neg hsequence]
      split
      · exact .inr (by decide)
      · split
        · exact .inr (by decide)
        · exact .inl rfl

theorem classify_listing_of_collectionShape
    (h : (t.listing interfaces).collectionShape = t.collectionShape) :
    (t.listing interfaces).classify g v = t.classify g v := by
  simp only [classify, kind_listing, isGeneric_listing, classifyNamed_listing, h]

theorem collectionShape_listing_of_mem_iff (h : ∀ name, name ∈ interfaces ↔ name ∈ t.interfaces) :
    (t.listing interfaces).collectionShape = t.collectionShape := by
  have hcontracts (name : String) : name ∈ contracts (t.listing interfaces) ↔ name ∈ contracts t :=
    ⟨fun hname => contracts_subset_listing (t := t.listing interfaces) (fun _ => (h _).mp) hname,
      fun hname => contracts_subset_listing (fun _ => (h _).mpr) hname⟩
  rw [collectionShape, collectionShape]
  refine if_congr Iff.rfl rfl (if_congr Iff.rfl rfl (if_congr ?_ rfl (if_congr (hcontracts _) rfl rfl)))
  simp only [List.any_eq_true, hcontracts]

theorem classify_of_kind (hkind : t.kind = .class ∨ t.kind = .struct ∨ t.kind = .interface) :
    t.classify g v =
      (if t.isGeneric then t.collectionShape else none).elim (t.classifyNamed g v) .shape := by
  rcases hkind with hkind | hkind | hkind <;>
    · simp only [classify, hkind]
      cases (if t.isGeneric then t.collectionShape else none) <;> rfl

theorem classify_listing (h : t.interfaces ⊆ interfaces) :
    (t.listing interfaces).classify g v = t.classify g v ∨
      ((t.kind = .class ∨ t.kind = .struct) ∧ t.isGeneric = true ∧
        [t.classify g v, (t.listing interfaces).classify g v].Sublist (t.ladder g v)) := by
  cases hkind : t.kind with
  | primitive | «enum» | typeParameter | array =>
      left
      simp only [classify, kind_listing, hkind]
  | interface => exact .inl (classify_listing_of_collectionShape (collectionShape_listing_of_interface hkind))
  | «class» | struct =>
      have hnamed : t.kind = .class ∨ t.kind = .struct ∨ t.kind = .interface := by simp [hkind]
      have hclassify := classify_of_kind (g := g) (v := v) hnamed
      have hclassify' := classify_of_kind (t := t.listing interfaces) (g := g) (v := v) hnamed
      rw [isGeneric_listing, classifyNamed_listing] at hclassify'
      cases hgeneric : t.isGeneric with
      | false =>
          simp only [hgeneric, Bool.false_eq_true, if_false] at hclassify hclassify'
          exact .inl (hclassify'.trans hclassify.symm)
      | true =>
          simp only [hgeneric, if_true] at hclassify hclassify'
          rcases collectionShape_listing_of_ne_interface (by simp [hkind]) h with hsame | hraised
          · exact .inl (classify_listing_of_collectionShape hsame)
          · refine .inr ⟨by simp, rfl, ?_⟩
            rw [hclassify, hclassify']
            exact hraised.map fun shape? => shape?.elim (t.classifyNamed g v) .shape

theorem nodup_ladder : (t.ladder g v).Nodup := by
  have hnamed {shape : Shape} (hshape : shape ≠ .plain) : t.classifyNamed g v ≠ .shape shape :=
    fun h => hshape (classifyNamed_shape h)
  simp [ladder, hnamed]

theorem isCovered_eq_false_iff {name : String} :
    isCovered g v name = false ↔
      (name ≠ "System" ∧ ¬ "System.".toList <+: name.toList) ∧
        ∀ node, g.lookup name = some node → node.decl.kind ≠ .enum ∧ node.decl.isRoot v = false := by
  rw [isCovered, Bool.or_eq_false_iff]
  refine and_congr ?_ ?_
  · rw [isSystemName, Bool.or_eq_false_iff, beq_eq_false_iff_ne, ← Bool.not_eq_true, List.isPrefixOf_iff_prefix]
  · cases g.lookup name with
    | none => simp
    | some node => simp

theorem classifyNamed_eq_missingContract_iff {name : String} :
    t.classifyNamed g v = .missingContract name ↔
      name = t.qualifiedName ∧ t.kind ≠ .interface ∧ isCovered g v t.qualifiedName = false := by
  rw [classifyNamed]
  by_cases hkind : t.kind = .interface
  · simp [hkind]
  · cases hcovered : isCovered g v t.qualifiedName with
    | false => simp [hkind, eq_comm]
    | true => simp

theorem elim_eq_missingContract_iff {shape? : Option Shape} {c : Classification} {name : String} :
    shape?.elim c .shape = .missingContract name ↔ shape? = none ∧ c = .missingContract name := by
  cases shape? <;> simp

theorem collectionShape_if_isGeneric_eq_none_iff (hkind : t.kind ≠ .array) :
    (if t.isGeneric then t.collectionShape else none) = none ↔
      t.arguments = [] ∨ t.collectionShape = none := by
  by_cases harguments : t.arguments = []
  · simp [isGeneric, harguments]
  · simp [isGeneric, harguments, hkind]

theorem classify_eq_missingContract_iff {name : String} :
    t.classify g v = .missingContract name ↔
      name = t.qualifiedName ∧ (t.kind = .class ∨ t.kind = .struct) ∧
        (t.arguments = [] ∨ t.collectionShape = none) ∧ isCovered g v t.qualifiedName = false := by
  cases hkind : t.kind with
  | primitive | «enum» | typeParameter | array => simp [classify, hkind]
  | interface =>
      rw [classify_of_kind (by simp [hkind]), elim_eq_missingContract_iff, classifyNamed_eq_missingContract_iff]
      simp [hkind]
  | «class» | struct =>
      rw [classify_of_kind (by simp [hkind]), elim_eq_missingContract_iff, classifyNamed_eq_missingContract_iff,
        collectionShape_if_isGeneric_eq_none_iff (by simp [hkind])]
      simp only [hkind, ne_eq, reduceCtorEq, not_false_eq_true, true_and, true_or, or_true]
      exact and_left_comm

theorem collectionShape_of_isHelper (h : t.classify g v = .shape shape) (hhelper : shape.isHelper = true) :
    t.isGeneric = true ∧ t.collectionShape = some shape := by
  rcases classify_shape h with rfl | hgeneric
  · cases hhelper
  · exact hgeneric

theorem concrete_or_lazy_of_collectionShape (hkind : t.kind ≠ .interface) (h : t.collectionShape = some shape) :
    shape = .concreteCollection ∨ shape = .lazySequence := by
  rw [collectionShape, if_neg hkind] at h
  split at h
  · cases h; exact .inr rfl
  · split at h
    · cases h; exact .inl rfl
    · split at h
      · cases h; exact .inr rfl
      · cases h

theorem kind_of_collectionShape (h : t.collectionShape = some shape)
    (habstract : shape = .abstractSequence ∨ shape = .abstractMap) : t.kind = .interface := by
  by_contra hkind
  rcases concrete_or_lazy_of_collectionShape hkind h with rfl | rfl <;> simp at habstract

/-- Listed interfaces count as a set and raise a class or struct with type arguments on its ladder, from the
rule for named types; a helper needs type arguments, an abstract one an interface; and a contract is missed of
the classes and structs that are no collection and whose name leads to nothing known. -/
theorem classify_shape_law (g : Graph) (v : Vocabulary) (t : TypeRef) :
    (∀ interfaces : List String, (∀ name, name ∈ interfaces ↔ name ∈ t.interfaces) →
      (t.listing interfaces).classify g v = t.classify g v) ∧
    (t.ladder g v).Nodup ∧
    (∀ interfaces : List String, t.interfaces ⊆ interfaces →
      (t.listing interfaces).classify g v ≠ t.classify g v →
        (t.kind = .class ∨ t.kind = .struct) ∧ t.arguments ≠ [] ∧
          [t.classify g v, (t.listing interfaces).classify g v].Sublist (t.ladder g v)) ∧
    (∀ shape, t.classify g v = .shape shape → shape.isHelper = true →
      t.arguments ≠ [] ∧ shape.elementArity ≤ t.arguments.length ∧
        (shape = .abstractSequence ∨ shape = .abstractMap → t.kind = .interface)) ∧
    (∀ name, t.classify g v = .missingContract name ↔
      name = TypeName.normalize t.name ∧ (t.kind = .class ∨ t.kind = .struct) ∧
        (t.arguments = [] ∨ t.collectionShape = none) ∧
        (name ≠ "System" ∧ ¬ "System.".toList <+: name.toList) ∧
        ∀ node, g.lookup name = some node → node.decl.kind ≠ .enum ∧ node.decl.isRoot v = false) := by
  have harguments (h : t.isGeneric = true) : t.arguments ≠ [] := by
    intro hnil
    simp [isGeneric, hnil] at h
  refine ⟨fun interfaces h => ?_, nodup_ladder, fun interfaces h hne => ?_, fun shape h hhelper => ?_,
    fun name => ?_⟩
  · exact classify_listing_of_collectionShape (collectionShape_listing_of_mem_iff h)
  · obtain ⟨hkind, hgeneric, hraised⟩ := (classify_listing h).resolve_left hne
    exact ⟨hkind, harguments hgeneric, hraised⟩
  · obtain ⟨hgeneric, hshape⟩ := collectionShape_of_isHelper h hhelper
    exact ⟨harguments hgeneric, elementArity_le_of_classify h, kind_of_collectionShape hshape⟩
  · rw [classify_eq_missingContract_iff]
    refine and_congr_right fun hname => ?_
    subst hname
    rw [isCovered_eq_false_iff]

end TypeRef

namespace Sample

def bag : TypeRef := { name := "global::Acme.Bag", arguments := [{ name := "int", kind := .primitive }] }

def enumerableBag : TypeRef := bag.listing ["System.Collections.Generic.IEnumerable`1"]

def collectionBag : TypeRef :=
  bag.listing ["global::System.Collections.Generic.ICollection`1", "System.Collections.Generic.IEnumerable`1"]

end Sample

open Sample in
theorem TypeRef.classify_shape_law_bag :
    bag.classify {} {} = .missingContract "Acme.Bag" ∧
      enumerableBag.classify {} {} = .shape .lazySequence ∧
      collectionBag.classify {} {} = .shape .concreteCollection ∧
      [bag.classify {} {}, enumerableBag.classify {} {}].Sublist (bag.ladder {} {}) ∧
      [enumerableBag.classify {} {}, collectionBag.classify {} {}].Sublist (enumerableBag.ladder {} {}) := by
  have hbag : bag.classify {} {} = .missingContract "Acme.Bag" := by decide +kernel
  have henumerable : enumerableBag.classify {} {} = .shape .lazySequence := by decide +kernel
  have hcollection : collectionBag.classify {} {} = .shape .concreteCollection := by decide +kernel
  obtain ⟨-, -, hraise, -⟩ := classify_shape_law {} {} bag
  obtain ⟨-, -, hraise', -⟩ := classify_shape_law {} {} enumerableBag
  refine ⟨hbag, henumerable, hcollection, ?_, ?_⟩
  · refine (hraise _ (by decide) ?_).2.2
    exact fun h => by cases henumerable.symm.trans (h.trans hbag)
  · refine (hraise' _ (by decide) ?_).2.2
    exact fun h => by cases hcollection.symm.trans (h.trans henumerable)

end WireShadow
