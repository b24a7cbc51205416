import WireShadow.Proofs.ElementTypes
import WireShadow.Proofs.UnitText

namespace WireShadow

open CSharp

namespace Member

variable {m : Member} {settings : Settings}

theorem emit_of_lacksElement (h : m.LacksElement) (settings : Settings) :
    m.emit settings = .error (.unsupportedShape m.property m.shape.name) := by
  cases hshape : m.shape with
  | plain | concreteCollection => simp [LacksElement, hshape, Shape.elementArity] at h
  | abstractSequence | lazySequence =>
      have h0 : m.element0 = none := by simpa [LacksElement, hshape, Shape.elementArity] using h
      simp only [emit, declaration, element, hshape, h0]
      rfl
  | abstractMap =>
      have h01 : m.element0 = none ∨ m.element1 = none := by
        simpa [LacksElement, hshape, Shape.elementArity] using h
      simp only [emit, declaration, element, hshape]
      cases h0 : m.element0 with
      | none => rfl
      | some key =>
          rw [h01.resolve_left (by simp [h0])]
          rfl

theorem exists_emit_iff : (∃ text, m.emit settings = .ok text) ↔ ¬m.LacksElement := by
  refine ⟨fun ⟨text, htext⟩ h => ?_, fun h => exists_emit h settings⟩
  rw [emit_of_lacksElement h] at htext
  cases htext

theorem emit_eq_error_iff {failure : Failure} : m.emit settings = .error failure ↔
    m.LacksElement ∧ failure = .unsupportedShape m.property m.shape.name := by
  by_cases h : m.LacksElement
  · rw [emit_of_lacksElement h, Except.error.injEq, and_iff_right h, eq_comm]
  · obtain ⟨text, htext⟩ : ∃ text, m.emit settings = .ok text := exists_emit_iff.mpr h
    rw [htext]
    exact iff_of_false (by intro herror; cases herror) fun hlacks => h hlacks.1

end Member

namespace TypeDescriptor

variable {d : TypeDescriptor} {settings : Settings}

theorem separated_eq_intercalate (members : List MemberText) :
    separated members = List.intercalate [.blank] (members.map MemberText.code) := by
  induction members with
  | nil => rfl
  | cons m ms ih =>
      cases ms with
      | nil => rw [separated, List.map_singleton, List.intercalate_singleton]
      | cons m' ms =>
          rw [separated, ih]
          simp only [List.map_cons, List.intercalate_cons_cons, List.append_assoc, List.singleton_append]

theorem emit_eq_error_iff_mapM {failure : Failure} :
    d.emit settings = .error failure ↔ (d.members.mapM fun m => m.emit settings) = .error failure := by
  rw [emit]
  cases d.members.mapM fun m => m.emit settings with
  | error failure' =>
      constructor <;> intro h
      · cases h; rfl
      · cases h; rfl
  | ok texts => constructor <;> intro h <;> cases h

theorem emit_eq_error_iff {failure : Failure} : d.emit settings = .error failure ↔
    ∃ before m after, d.members = before ++ m :: after ∧ (∀ m' ∈ before, ¬m'.LacksElement) ∧ m.LacksElement ∧
      failure = .unsupportedShape m.property m.shape.name := by
  simp only [emit_eq_error_iff_mapM, mapM_eq_error_iff, Member.exists_emit_iff, Member.emit_eq_error_iff]

theorem exists_emit_iff : (∃ file, d.emit settings = .ok file) ↔ ∀ m ∈ d.members, ¬m.LacksElement := by
  refine ⟨fun ⟨file, hfile⟩ m hm => ?_, fun h => ?_⟩
  · obtain ⟨texts, htexts, -⟩ := (emit_eq_ok_iff d settings).mp hfile
    obtain ⟨text, -, htext⟩ := exists_of_mem_forall₂ htexts.flip hm
    exact Member.exists_emit_iff.mp ⟨text, htext⟩
  · exact exists_emit h settings

theorem exists_emit_eq_error_iff :
    (∃ failure, d.emit settings = .error failure) ↔ ∃ m ∈ d.members, m.LacksElement := by
  have hnot : (∃ failure, d.emit settings = .error failure) ↔ ¬∃ file, d.emit settings = .ok file := by
    cases d.emit settings <;> simp
  rw [hnot, exists_emit_iff]
  simp only [not_forall, not_not, exists_prop]

/-- A file fails for the first member that lacks an element type, and is else written with the two lines of each
member, in their order. -/
theorem emit_fails_for_missing_elements (d : TypeDescriptor) (settings : Settings) :
    ((∃ failure, d.emit settings = .error failure) ↔ ∃ m ∈ d.members, m.LacksElement) ∧
    (∀ failure, d.emit settings = .error failure ↔
      ∃ before m after, d.members = before ++ m :: after ∧ (∀ m' ∈ before, ¬m'.LacksElement) ∧ m.LacksElement ∧
        failure = .unsupportedShape m.property m.shape.name) ∧
    ((∀ m ∈ d.members, ¬m.LacksElement) → ∃ file texts, d.emit settings = .ok file ∧
      List.Forall₂ (fun m text => m.emit settings = .ok text) d.members texts ∧
      separated texts = List.intercalate [.blank] (texts.map MemberText.code) ∧
      file.text = Code.textAll 0 (d.code settings texts)) := by
  refine ⟨exists_emit_eq_error_iff, fun failure => emit_eq_error_iff, fun h => ?_⟩
  obtain ⟨file, hfile⟩ := exists_emit_iff.mpr h
  obtain ⟨texts, htexts, rfl⟩ := (emit_eq_ok_iff d settings).mp hfile
  exact ⟨_, texts, hfile, htexts, separated_eq_intercalate texts, rfl⟩

end TypeDescriptor

namespace Sample

def unfilled : TypeDescriptor :=
  { head := { name := "Crate", namespaceName := "Shop", kind := .class }
    enclosing := []
    members :=
      [{ property := "Id", typeText := "int", tag := 1 },
        { property := "Rates", shape := .abstractMap, element0 := some "int", tag := 2 },
        { property := "Lines", shape := .lazySequence, tag := 3 }]
    claimed := .ofList [1, 2, 3] }

end Sample

theorem TypeDescriptor.emit_fails_for_missing_elements_unfilled :
    Sample.unfilled.emit {} = .error (.unsupportedShape "Rates" "AbstractMapHelper") := by
  obtain ⟨-, hemit, -⟩ := emit_fails_for_missing_elements Sample.unfilled {}
  exact (hemit _).mpr ⟨[_], _, [_], rfl, by decide, by decide, rfl⟩

end WireShadow
