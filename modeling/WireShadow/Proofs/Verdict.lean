import WireShadow.Verdict

namespace WireShadow.Property

variable {g : Graph} {v : Vocabulary} {p : Property}

theorem structuralMiss_cases (p : Property) :
    p.structuralMiss = none ∨ p.structuralMiss = some .notAuto ∨ p.structuralMiss = some .missingAccessor := by
  unfold structuralMiss
  split
  · exact .inr (.inl rfl)
  · split
    · exact .inl rfl
    · exact .inr (.inr rfl)

theorem verdict_static (h : p.isStatic = true) : p.verdict g v = .static := if_pos h

theorem verdict_explicit (h : p.isStatic = false) {tag : Option Nat} (hm : p.marker v = .explicit tag) :
    p.verdict g v = .skipped tag := by
  rw [verdict, h, hm]
  rfl

theorem verdict_missingContract (h : p.isStatic = false) (hm : p.marker v = .untagged) {name : String}
    (hc : p.type.classify g v = .missingContract name) : p.verdict g v = .missingContract name := by
  rw [verdict, h, hm, hc]
  rfl

theorem verdict_shape (h : p.isStatic = false) (hm : p.marker v = .untagged) {shape : Shape}
    (hc : p.type.classify g v = .shape shape) :
    p.verdict g v = p.structuralMiss.getD (.generate shape p.isInitOnly) := by
  rw [verdict, h, hm, hc]
  rfl

theorem verdict_eq_skipped_iff {tag : Option Nat} :
    p.verdict g v = .skipped tag ↔ p.isStatic = false ∧ p.marker v = .explicit tag := by
  refine ⟨fun h => ?_, fun h => verdict_explicit h.1 h.2⟩
  cases hs : p.isStatic with
  | true => rw [verdict_static hs] at h; cases h
  | false =>
      cases hm : p.marker v with
      | explicit tag' =>
          rw [verdict_explicit hs hm] at h
          cases h
          exact ⟨rfl, rfl⟩
      | untagged =>
          cases hc : p.type.classify g v with
          | missingContract name => rw [verdict_missingContract hs hm hc] at h; cases h
          | shape shape =>
              rw [verdict_shape hs hm hc] at h
              rcases structuralMiss_cases p with hp | hp | hp <;> rw [hp] at h <;> cases h

theorem verdict_eq_generate_iff {shape : Shape} {isInitOnly : Bool} :
    p.verdict g v = .generate shape isInitOnly ↔
      p.isStatic = false ∧ p.marker v = .untagged ∧ p.type.classify g v = .shape shape ∧
        p.structuralMiss = none ∧ isInitOnly = p.isInitOnly := by
  constructor
  · intro h
    cases hs : p.isStatic with
    | true => rw [verdict_static hs] at h; cases h
    | false =>
        cases hm : p.marker v with
        | explicit tag => rw [verdict_explicit hs hm] at h; cases h
        | untagged =>
            cases hc : p.type.classify g v with
            | missingContract name => rw [verdict_missingContract hs hm hc] at h; cases h
            | shape shape' =>
                rw [verdict_shape hs hm hc] at h
                rcases structuralMiss_cases p with hp | hp | hp <;> rw [hp] at h <;> cases h
                exact ⟨rfl, rfl, rfl, hp, rfl⟩
  · rintro ⟨hs, hm, hc, hp, rfl⟩
    rw [verdict_shape hs hm hc, hp]
    rfl

theorem claimed?_eq_some_iff {t : Nat} :
    p.claimed? g v = some t ↔ p.isStatic = false ∧ p.marker v = .explicit (some t) := by
  rw [← verdict_eq_skipped_iff (g := g), claimed?]
  cases p.verdict g v <;> simp

end WireShadow.Property
