import WireShadow.Proofs.MemberTags

namespace WireShadow

namespace TypeRef

theorem isDigit_of_mem_toString {n : Nat} {c : Char} (h : c ∈ (toString n).toList) : c.isDigit = true := by
  rw [Nat.toString_eq_repr, Nat.toList_repr] at h
  exact Nat.isDigit_of_mem_toDigits (by decide) (by decide) h

theorem backtick_not_mem_repr (n : Nat) : '`' ∉ (toString n).toList := fun h =>
  absurd (isDigit_of_mem_toString h) (by decide)

theorem toString_inj {m n : Nat} (h : (toString m).toList = (toString n).toList) : m = n := by
  rw [Nat.toString_eq_repr, Nat.toString_eq_repr, Nat.toList_repr, Nat.toList_repr] at h
  calc
    m = Nat.ofDigitChars 10 (Nat.toDigits 10 m) 0 := Nat.ofDigitChars_ten_toDigits.symm
    _ = Nat.ofDigitChars 10 (Nat.toDigits 10 n) 0 := by rw [h]
    _ = n := Nat.ofDigitChars_ten_toDigits

/-- A name can hold backticks of its own, but the last one comes before the arity. -/
theorem withArity_inj {name name' : String} {m n : Nat} (hm : m ≠ 0) (hn : n ≠ 0)
    (h : withArity name m = withArity name' n) : name = name' ∧ m = n := by
  rw [withArity, withArity, if_neg hm, if_neg hn] at h
  have hlist := congrArg String.toList h
  simp only [String.toList_append, List.append_assoc] at hlist
  obtain ⟨hname, hcount⟩ := append_cons_inj (backtick_not_mem_repr m) (backtick_not_mem_repr n) hlist
  exact ⟨String.toList_inj.mp hname, toString_inj hcount⟩

theorem length_arguments_of_mem_mapInterfaces {t : TypeRef} (ht : t.arguments ≠ [])
    (h : withArity t.qualifiedName t.arguments.length ∈ Collections.mapInterfaces) :
    t.arguments.length = 2 := by
  have hlen : t.arguments.length ≠ 0 := fun h => ht (List.length_eq_zero_iff.mp h)
  have hname : ∃ name, withArity t.qualifiedName t.arguments.length = withArity name 2 := by
    rcases List.mem_cons.mp h with h | h
    · exact ⟨"System.Collections.Generic.IDictionary", h⟩
    · exact ⟨"System.Collections.Generic.IReadOnlyDictionary", List.mem_singleton.mp h⟩
  obtain ⟨name, hname⟩ := hname
  exact (withArity_inj hlen (by decide) hname).2

theorem elementArity_le_of_collectionShape {t : TypeRef} {shape : Shape} (ht : t.isGeneric)
    (h : t.collectionShape = some shape) : shape.elementArity ≤ t.arguments.length := by
  have hne : t.arguments ≠ [] := by
    intro hnil
    simp [isGeneric, hnil] at ht
  have hpos : 1 ≤ t.arguments.length := List.length_pos_iff.mpr hne
  rw [collectionShape] at h
  split at h
  · cases h; exact hpos
  · split at h
    · split at h
      · cases h; exact hpos
      · split at h
        · next hmap =>
            cases h
            rw [openDefinition, if_pos ht] at hmap
            exact Nat.le_of_eq (length_arguments_of_mem_mapInterfaces hne hmap).symm
        · cases h
    · split at h
      · cases h; exact Nat.zero_le _
      · split at h
        · cases h; exact hpos
        · cases h

theorem classifyNamed_shape {g : Graph} {v : Vocabulary} {t : TypeRef} {shape : Shape}
    (h : t.classifyNamed g v = .shape shape) : shape = .plain := by
  rw [classifyNamed] at h
  split at h <;> cases h
  rfl

theorem classify_shape {g : Graph} {v : Vocabulary} {t : TypeRef} {shape : Shape}
    (h : t.classify g v = .shape shape) :
    shape = .plain ∨ t.isGeneric = true ∧ t.collectionShape = some shape := by
  cases hkind : t.kind with
  | primitive | «enum» | typeParameter | array =>
      simp only [classify, hkind] at h
      cases h
      exact .inl rfl
  | «class» | struct | interface =>
      simp only [classify, hkind] at h
      cases hgeneric : t.isGeneric with
      | false =>
          simp only [hgeneric, Bool.false_eq_true, if_false] at h
          exact .inl (classifyNamed_shape h)
      | true =>
          simp only [hgeneric, if_true] at h
          cases hshape : t.collectionShape with
          | none => simp only [hshape] at h; exact .inl (classifyNamed_shape h)
          | some shape' => simp only [hshape] at h; cases h; exact .inr ⟨rfl, rfl⟩

theorem elementArity_le_of_classify {g : Graph} {v : Vocabulary} {t : TypeRef} {shape : Shape}
    (h : t.classify g v = .shape shape) : shape.elementArity ≤ t.arguments.length := by
  rcases classify_shape h with rfl | ⟨hgeneric, hshape⟩
  · exact Nat.zero_le _
  · exact elementArity_le_of_collectionShape hgeneric hshape

end TypeRef

namespace Member

/-- The shape of the member is written with an element type that the member does not have. -/
def LacksElement (m : Member) : Prop :=
  (1 ≤ m.shape.elementArity ∧ m.element0 = none) ∨ (m.shape.elementArity = 2 ∧ m.element1 = none)

instance (m : Member) : Decidable m.LacksElement :=
  inferInstanceAs (Decidable ((1 ≤ m.shape.elementArity ∧ m.element0 = none) ∨
    (m.shape.elementArity = 2 ∧ m.element1 = none)))

variable {m : Member}

theorem exists_declaration (h : ¬m.LacksElement) (settings : Settings) :
    ∃ text, m.declaration settings = .ok text := by
  obtain ⟨h0, h1⟩ := not_or.mp h
  replace h0 := fun hpos => Option.ne_none_iff_exists'.mp fun hnone => h0 ⟨hpos, hnone⟩
  replace h1 := fun htwo => Option.ne_none_iff_exists'.mp fun hnone => h1 ⟨htwo, hnone⟩
  cases hshape : m.shape with
  | plain | concreteCollection =>
      simp only [declaration, hshape]
      exact ⟨_, rfl⟩
  | abstractSequence | lazySequence =>
      obtain ⟨element, helement⟩ := h0 (by rw [hshape]; decide)
      simp only [declaration, hshape, helement]
      exact ⟨_, rfl⟩
  | abstractMap =>
      obtain ⟨key, hkey⟩ := h0 (by rw [hshape]; decide)
      obtain ⟨value, hvalue⟩ := h1 (by rw [hshape]; decide)
      simp only [declaration, hshape, hkey, hvalue]
      exact ⟨_, rfl⟩

theorem exists_emit (h : ¬m.LacksElement) (settings : Settings) : ∃ text, m.emit settings = .ok text := by
  obtain ⟨declaration, hdeclaration⟩ := exists_declaration h settings
  rw [emit, hdeclaration]
  exact ⟨_, rfl⟩

theorem emit_eq_ok_iff {settings : Settings} {text : MemberText} : m.emit settings = .ok text ↔
    m.declaration settings = .ok text.declaration ∧ text.attributeLine = m.attributeLine settings := by
  rw [emit]
  cases m.declaration settings with
  | error failure => exact ⟨nofun, nofun⟩
  | ok declaration =>
      constructor
      · intro h
        cases h
        exact ⟨rfl, rfl⟩
      · rintro ⟨hdeclaration, hline⟩
        cases hdeclaration
        rw [← hline]
        rfl

theorem lacksElement_withTag {tag : Nat} : (m.withTag tag).LacksElement ↔ m.LacksElement := Iff.rfl

end Member

theorem TypeDescriptor.exists_emit {d : TypeDescriptor} (h : ∀ m ∈ d.members, ¬m.LacksElement)
    (settings : Settings) : ∃ result, d.emit settings = .ok result := by
  obtain ⟨texts, htexts⟩ := exists_mapM_eq_ok fun m hm => Member.exists_emit (h m hm) settings
  rw [emit, htexts]
  exact ⟨_, rfl⟩

theorem Shape.isHelper_of_one_le_elementArity {shape : Shape} (h : 1 ≤ shape.elementArity) :
    shape.isHelper = true := by
  cases shape with
  | plain => cases h
  | concreteCollection | abstractSequence | abstractMap | lazySequence => rfl

namespace Property

variable {g : Graph} {v : Vocabulary} {custom : Option String} {p : Property}

theorem not_lacksElement_shadow {shape : Shape} (h : shape.elementArity ≤ p.type.arguments.length) :
    ¬(p.shadow custom shape).LacksElement := by
  rintro (⟨hpos, hnone⟩ | ⟨htwo, hnone⟩) <;> simp only [shadow] at hnone
  · change 1 ≤ shape.elementArity at hpos
    rw [if_pos (Shape.isHelper_of_one_le_elementArity hpos), Option.map_eq_none_iff,
      List.getElem?_eq_none_iff] at hnone
    omega
  · change shape.elementArity = 2 at htwo
    rw [if_pos (Shape.isHelper_of_one_le_elementArity (by omega)), Option.map_eq_none_iff,
      List.getElem?_eq_none_iff] at hnone
    omega

theorem not_lacksElement_of_mem_shadows {m : Member} (hm : m ∈ p.shadows g v custom) : ¬m.LacksElement := by
  rw [shadows] at hm
  cases hverdict : p.verdict g v with
  | generate shape isInitOnly =>
      obtain ⟨-, -, hshape, -⟩ := verdict_eq_generate_iff.mp hverdict
      simp only [hverdict] at hm
      rcases List.mem_cons.mp hm with rfl | hm
      · exact not_lacksElement_shadow (Nat.zero_le _)
      · split at hm
        · obtain rfl := List.mem_singleton.mp hm
          exact not_lacksElement_shadow (TypeRef.elementArity_le_of_classify hshape)
        · cases hm
  | «static» | skipped | missingContract | notAuto | missingAccessor =>
      simp only [hverdict] at hm
      cases hm

end Property

theorem TypeNode.not_lacksElement_of_mem_members {g : Graph} {v : Vocabulary} {node : TypeNode} {m : Member}
    (hm : m ∈ (node.analysis g v).members) : ¬m.LacksElement := by
  have hshadow : m.withTag 0 ∈ node.shadows g v := by
    rw [← map_withTag_members]
    exact List.mem_map_of_mem hm
  obtain ⟨p, -, hp⟩ := List.mem_flatMap.mp hshadow
  exact mt Member.lacksElement_withTag.mpr (Property.not_lacksElement_of_mem_shadows hp)

end WireShadow
