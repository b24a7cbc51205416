import Mathlib.Data.List.Basic
import WireShadow.Log.Filter

namespace WireShadow.Log

namespace Level

variable {x y : Level}

theorem eq_of_ordinal_eq (h : x.ordinal = y.ordinal) : x = y := by
  cases x <;> cases y <;> first | rfl | cases h

theorem ordinal_le_off (l : Level) : l.ordinal ≤ off.ordinal := by
  cases l <;> decide

theorem ordinal_max (x y : Level) : (x.max y).ordinal = min x.ordinal y.ordinal := by
  rw [max]
  split
  · next h => exact (Nat.min_eq_left h).symm
  · next h => exact (Nat.min_eq_right (Nat.le_of_not_le h)).symm

theorem max_eq_or (x y : Level) : x.max y = x ∨ x.max y = y := by
  rw [max]
  split
  · exact .inl rfl
  · exact .inr rfl

end Level

def Directive.isPlain (d : Directive) : Bool := d.target.isSome && d.span.isNone && d.field.isNone

theorem Directive.hasValue_of_isPlain {d : Directive} (h : d.isPlain = true) : d.hasValue = false := by
  rw [isPlain, Bool.and_eq_true, Option.isNone_iff_eq_none] at h
  rw [hasValue, h.2]
  rfl

def layered (level : Level) (ds : List Directive) : Level := ds.foldl (fun l d => l.max d.level) level

section Layers

variable {level : Level} {ds : List Directive}

theorem layered_cons (d : Directive) : layered level (d :: ds) = layered (level.max d.level) ds := rfl

theorem layered_eq_or (level : Level) (ds : List Directive) :
    layered level ds = level ∨ ∃ d ∈ ds, layered level ds = d.level := by
  induction ds generalizing level with
  | nil => exact .inl rfl
  | cons d ds ih =>
      rw [layered_cons]
      rcases ih (level.max d.level) with hmax | ⟨d', hd', hlevel⟩
      · rw [hmax]
        exact (level.max_eq_or d.level).imp_right fun h => ⟨d, List.mem_cons_self, h⟩
      · exact .inr ⟨d', List.mem_cons_of_mem d hd', hlevel⟩

theorem le_layered_iff {n : Nat} :
    n ≤ (layered level ds).ordinal ↔ n ≤ level.ordinal ∧ ∀ d ∈ ds, n ≤ d.level.ordinal := by
  induction ds generalizing level with
  | nil => simp [layered]
  | cons d ds ih => rw [layered_cons, ih, Level.ordinal_max, Nat.le_min, List.forall_mem_cons, and_assoc]

theorem layered_off_eq_layered_iff (hne : ds ≠ []) (level : Level) :
    layered .off ds = layered level ds ↔ ∃ d ∈ ds, d.level.ordinal ≤ level.ordinal := by
  constructor
  · intro heq
    obtain ⟨d, hd⟩ := List.exists_mem_of_ne_nil ds hne
    have hlevel := (le_layered_iff.mp (Nat.le_of_eq (congrArg Level.ordinal heq))).1
    rcases layered_eq_or .off ds with hoff | ⟨d', hd', hlayered⟩
    · rw [hoff] at hlevel
      exact ⟨d, hd, Nat.le_trans d.level.ordinal_le_off hlevel⟩
    · exact ⟨d', hd', hlayered ▸ hlevel⟩
  · rintro ⟨d, hd, hlevel⟩
    obtain ⟨-, hds⟩ := le_layered_iff.mp (Nat.le_refl (layered .off ds).ordinal)
    refine Level.eq_of_ordinal_eq (Nat.le_antisymm ?_ ?_)
    · exact le_layered_iff.mpr ⟨Nat.le_trans (hds d hd) hlevel, hds⟩
    · exact le_layered_iff.mpr ⟨Level.ordinal_le_off _, (le_layered_iff.mp (Nat.le_refl _)).2⟩

end Layers

namespace FilterLibrary

variable {F : Type} {lib : FilterLibrary F}

/-- What is known of a library of filters. The default level is for texts without a directive that can be read. A
filter for other texts may log as much as the most verbose of its directives, unless one looks at a value. -/
structure Documented (lib : FilterLibrary F) : Prop where
  maxLevel_default {text : String} (level : Level) : lib.readable text = [] →
    lib.maxLevel (lib.parse level text) = level
  parse_eq {text : String} (level level' : Level) : lib.readable text ≠ [] →
    lib.parse level' text = lib.parse level text
  maxLevel_eq {text : String} (level : Level) : lib.readable text ≠ [] →
    (∀ d ∈ lib.readable text, d.hasValue = false) →
    lib.maxLevel (lib.parse level text) = layered .off (lib.readable text)

def given (directives : Option String) : String := Text.trim (directives.getD "")

theorem build_eq_parse (lib : FilterLibrary F) (level : Level) (directives : Option String) :
    lib.build level directives = lib.parse level (given directives) := by
  cases directives with
  | none => rfl
  | some text =>
      simp only [build, given, Option.map_some, Option.getD_some]
      split
      · next hempty => rw [String.isEmpty_iff.mp hempty]
      · rfl

/-- Directives take the place of the level of a run. So the most verbose of all levels is the maximum only if there
is no directive, or if one of them is as verbose as the level. -/
theorem maxLevel_build_eq_layered_iff (h : lib.Documented) {directives : Option String}
    (hplain : ∀ d ∈ lib.readable (given directives), d.isPlain = true) (level : Level) :
    (lib.readable (given directives) ≠ [] →
      (∀ level', lib.build level' directives = lib.build level directives) ∧
      lib.maxLevel (lib.build level directives) = layered .off (lib.readable (given directives))) ∧
    (lib.maxLevel (lib.build level directives) = layered level (lib.readable (given directives)) ↔
      lib.readable (given directives) = [] ∨
        ∃ d ∈ lib.readable (given directives), d.level.ordinal ≤ level.ordinal) := by
  simp only [build_eq_parse]
  have hmax (hne : lib.readable (given directives) ≠ []) :
      lib.maxLevel (lib.parse level (given directives)) = layered .off (lib.readable (given directives)) :=
    h.maxLevel_eq level hne fun d hd => Directive.hasValue_of_isPlain (hplain d hd)
  refine ⟨fun hne => ⟨fun level' => h.parse_eq level level' hne, hmax hne⟩, ?_⟩
  by_cases hne : lib.readable (given directives) = []
  · rw [h.maxLevel_default level hne, hne]
    exact iff_of_true rfl (.inl rfl)
  · rw [hmax hne, layered_off_eq_layered_iff hne, or_iff_right hne]

end FilterLibrary

namespace Filter

variable {ds : List Directive} {f : Filter}

theorem verbosity_foldl_add : (ds.foldl add f).verbosity = layered f.verbosity ds := by
  induction ds generalizing f with
  | nil => rfl
  | cons d ds ih => exact ih

theorem mem_foldl_add {d : Directive} (h : d ∈ (ds.foldl add f).directives) : d ∈ f.directives ∨ d ∈ ds := by
  induction ds generalizing f with
  | nil => exact .inl h
  | cons first ds ih =>
      rcases ih h with hadded | hrest
      · rcases List.mem_append.mp hadded with hkept | hfirst
        · exact .inl (List.mem_filter.mp hkept).1
        · exact .inr (List.mem_singleton.mp hfirst ▸ List.mem_cons_self)
      · exact .inr (List.mem_cons_of_mem first hrest)

theorem maxLevel_foldl_add (h : ∀ d ∈ ds, d.hasValue = false) :
    (ds.foldl add {}).maxLevel = layered .off ds := by
  have hvalues : (ds.foldl add {}).directives.any (·.hasValue) = false := by
    rw [List.any_eq_false]
    intro d hd
    rcases mem_foldl_add hd with hnone | hd
    · cases hnone
    · simp [h d hd]
  rw [maxLevel, hvalues, verbosity_foldl_add]
  rfl

theorem parse_eq_foldl_add (level : Level) (text : String) :
    parse level text = (if (library.readable text).isEmpty then [{ level }] else library.readable text).foldl add {} :=
  rfl

theorem parse_of_readable_ne_nil {text : String} (h : library.readable text ≠ []) (level : Level) :
    parse level text = (library.readable text).foldl add {} := by
  rw [parse_eq_foldl_add, if_neg (by simpa using h)]

theorem documented_library : library.Documented where
  maxLevel_default {text} level hnil := by
    change (parse level text).maxLevel = level
    rw [parse_eq_foldl_add, hnil]
    cases level <;> rfl
  parse_eq level level' hne := (parse_of_readable_ne_nil hne level').trans (parse_of_readable_ne_nil hne level).symm
  maxLevel_eq {text} level hne hvalues := by
    change (parse level text).maxLevel = _
    rw [parse_of_readable_ne_nil hne]
    exact maxLevel_foldl_add hvalues

open FilterLibrary

theorem maxLevel_build_eq_layered_iff_trace :
    library.Documented ∧ (∀ d ∈ library.readable (given (some "app=trace,app=off")), d.isPlain = true) ∧
      library.maxLevel (library.build .warn (some "app=trace,app=off")) =
        layered .warn (library.readable (given (some "app=trace,app=off"))) ∧
      library.maxLevel (library.build .warn (some "app=trace,app=off")) = .trace := by
  have hplain : ∀ d ∈ library.readable (given (some "app=trace,app=off")), d.isPlain = true := by decide +kernel
  have hmax := (maxLevel_build_eq_layered_iff documented_library hplain .warn).2.mpr (.inr (by decide +kernel))
  exact ⟨documented_library, hplain, hmax, by decide +kernel⟩

/-- One directive for a target, and the level of the run holds for nothing. -/
theorem build_forgets_level :
    library.Documented ∧ (∀ d ∈ library.readable (given (some "a=off")), d.isPlain = true) ∧
      layered .warn (library.readable (given (some "a=off"))) = .warn ∧
      library.maxLevel (library.build .warn (some "a=off")) = .off ∧
      (library.build .warn (some "a=off")).directives = [{ level := .off, target := some "a" }] :=
  ⟨documented_library, by decide +kernel, by decide +kernel, by decide +kernel, by decide +kernel⟩

end Filter

end WireShadow.Log
