import Mathlib.Data.List.Induction
import WireShadow.Proofs.CodeBlocks

namespace WireShadow.CSharp.Writer

open Code

structure Opening where
  before : List Step
  header : String
deriving DecidableEq, Repr

/-- The block is open after some steps if it is opened among them and no step behind closes it. A step closes it if
there is whole code between the two. -/
def Opening.IsOpenAfter (o : Opening) (steps : List Step) : Prop :=
  ∃ behind, steps = o.before ++ .openBlock o.header :: behind ∧
    ∀ body rest, behind ≠ stepsAll body ++ .closeBlock :: rest

def follow (steps : List Step) (blocks : List Opening) : Step → List Opening
  | .openBlock header => ⟨steps, header⟩ :: blocks
  | .closeBlock => blocks.tail
  | .line _ | .blank => blocks

def openingsFrom (before : List Step) (blocks : List Opening) : List Step → List Opening
  | [] => blocks
  | s :: steps => openingsFrom (before ++ [s]) (follow before blocks s) steps

def openings (steps : List Step) : List Opening := openingsFrom [] [] steps

variable {steps behind : List Step} {blocks outer : List Opening} {o : Opening}

theorem openingsFrom_append (before : List Step) (blocks : List Opening) (steps behind : List Step) :
    openingsFrom before blocks (steps ++ behind) =
      openingsFrom (before ++ steps) (openingsFrom before blocks steps) behind := by
  induction steps generalizing before blocks with
  | nil => rw [List.append_nil]; rfl
  | cons s steps ih => rw [List.cons_append, openingsFrom, openingsFrom, ih, List.append_assoc]; rfl

theorem openings_concat (steps : List Step) (s : Step) :
    openings (steps ++ [s]) = follow steps (openings steps) s := by
  rw [openings, openingsFrom_append]
  rfl

/-- One counter stands for the stack of open blocks: both stay empty when a block is closed and none is open. -/
theorem depth_step {w : Writer} (h : w.depth = blocks.length) (s : Step) :
    (w.step s).depth = (follow steps blocks s).length := by
  cases s with
  | line | blank => exact h
  | openBlock header => exact congrArg (· + 1) h
  | closeBlock =>
      rw [follow, List.length_tail]
      exact congrArg (· - 1) h

theorem run_concat (w : Writer) (steps : List Step) (s : Step) : w.run (steps ++ [s]) = (w.run steps).step s :=
  w.run_append steps [s]

theorem depth_run (steps : List Step) : (run {} steps).depth = (openings steps).length := by
  induction steps using List.reverseRecOn with
  | nil => rfl
  | append_singleton steps s ih =>
      rw [run_concat, openings_concat]
      exact depth_step ih s

mutual

theorem openings_append_steps :
    (code : Code) → (steps : List Step) → openings (steps ++ code.steps) = openings steps
  | .line _, steps => openings_concat steps _
  | .blank, steps => openings_concat steps _
  | .block header body, steps => by
      have hsplit : steps ++ Code.steps (.block header body) =
          ((steps ++ [.openBlock header]) ++ stepsAll body) ++ [.closeBlock] := by
        rw [Code.steps]
        simp only [List.append_assoc, List.cons_append, List.nil_append]
      rw [hsplit, openings_concat, openings_append_stepsAll, openings_concat]
      rfl

theorem openings_append_stepsAll :
    (codes : List Code) → (steps : List Step) → openings (steps ++ stepsAll codes) = openings steps
  | [], steps => by rw [stepsAll, List.append_nil]
  | code :: codes, steps => by
      rw [stepsAll, ← List.append_assoc, openings_append_stepsAll, openings_append_steps]

end

theorem openings_openBlock (before : List Step) (header : String) (body : List Code) :
    openings (before ++ .openBlock header :: stepsAll body) = ⟨before, header⟩ :: openings before := by
  rw [List.append_cons, openings_append_stepsAll, openings_concat]
  rfl

/-- The steps end inside these blocks: behind the opening of the innermost there is whole code only. -/
def Inside : List Opening → List Step → Prop
  | [], _ => True
  | o :: outer, steps => Inside outer o.before ∧ ∃ body, steps = o.before ++ .openBlock o.header :: stepsAll body

theorem Inside.concat (h : Inside blocks steps) (code : Code) {s : Step} (hs : code.steps = [s]) :
    Inside blocks (steps ++ [s]) := by
  cases blocks with
  | nil => trivial
  | cons o outer =>
      obtain ⟨houter, body, rfl⟩ := h
      refine ⟨houter, body ++ [code], ?_⟩
      rw [stepsAll_append, stepsAll_singleton, hs, List.append_assoc, List.cons_append]

theorem Inside.follow (h : Inside blocks steps) (s : Step) : Inside (follow steps blocks s) (steps ++ [s]) := by
  cases s with
  | line text => exact h.concat (.line text) rfl
  | blank => exact h.concat .blank rfl
  | openBlock header => exact ⟨h, [], rfl⟩
  | closeBlock =>
      match blocks, h with
      | [], _ | [_], _ => trivial
      | inner :: o :: outer, ⟨⟨houter, body, hinner⟩, body', hsteps⟩ =>
          -- The block that is closed is one more piece of whole code in the block around it.
          refine ⟨houter, body ++ [.block inner.header body'], ?_⟩
          rw [hsteps, hinner, stepsAll_append, stepsAll_singleton, Code.steps]
          simp only [List.append_assoc, List.cons_append]

theorem inside_openings (steps : List Step) : Inside (openings steps) steps := by
  induction steps using List.reverseRecOn with
  | nil => trivial
  | append_singleton steps s ih =>
      rw [openings_concat]
      exact ih.follow s

theorem openings_eq_cons_iff : openings steps = o :: outer ↔
    openings o.before = outer ∧ ∃ body, steps = o.before ++ .openBlock o.header :: stepsAll body := by
  constructor
  · intro h
    have hinside := inside_openings steps
    rw [h] at hinside
    obtain ⟨-, body, rfl⟩ := hinside
    rw [openings_openBlock] at h
    exact ⟨(List.cons.inj h).2, body, rfl⟩
  · rintro ⟨rfl, body, rfl⟩
    exact openings_openBlock o.before o.header body

theorem mem_follow {s : Step} (h : o ∈ follow steps blocks s) :
    o ∈ blocks ∨ s = .openBlock o.header ∧ o.before = steps := by
  cases s with
  | line | blank => exact .inl h
  | openBlock header =>
      rcases List.mem_cons.mp h with rfl | h
      · exact .inr ⟨rfl, rfl⟩
      · exact .inl h
  | closeBlock => exact .inl (List.mem_of_mem_tail h)

theorem exists_behind_of_mem (h : o ∈ openings steps) :
    ∃ behind, steps = o.before ++ .openBlock o.header :: behind := by
  induction steps using List.reverseRecOn with
  | nil => cases h
  | append_singleton steps s ih =>
      rw [openings_concat] at h
      rcases mem_follow h with h | ⟨rfl, hbefore⟩
      · obtain ⟨behind, hsteps⟩ := ih h
        exact ⟨behind ++ [s], by rw [hsteps, List.append_assoc, List.cons_append]⟩
      · exact ⟨[], by rw [hbefore]⟩

theorem length_before_lt (h : o ∈ openings steps) : o.before.length < steps.length := by
  obtain ⟨behind, hsteps⟩ := exists_behind_of_mem h
  rw [hsteps, List.length_append, List.length_cons]
  omega

theorem mem_openings_append (h : o ∈ openings (steps ++ behind)) :
    o ∈ openings steps ∨ steps.length ≤ o.before.length := by
  induction behind using List.reverseRecOn with
  | nil =>
      rw [List.append_nil] at h
      exact .inl h
  | append_singleton behind s ih =>
      rw [← List.append_assoc, openings_concat] at h
      rcases mem_follow h with h | ⟨-, hbefore⟩
      · exact ih h
      · right
        rw [hbefore, List.length_append]
        omega

theorem not_mem_openings_closed (o : Opening) (body : List Code) (rest : List Step) :
    o ∉ openings (o.before ++ .openBlock o.header :: (stepsAll body ++ .closeBlock :: rest)) := by
  let closed := (o.before ++ .openBlock o.header :: stepsAll body) ++ [.closeBlock]
  have hsplit : o.before ++ .openBlock o.header :: (stepsAll body ++ .closeBlock :: rest) = closed ++ rest := by
    simp only [closed, List.append_assoc, List.cons_append, List.nil_append]
  have hclosed : openings closed = openings o.before := by
    rw [openings_concat, openings_openBlock]
    rfl
  intro h
  rw [hsplit] at h
  rcases mem_openings_append h with h | h
  · rw [hclosed] at h
    exact Nat.lt_irrefl _ (length_before_lt h)
  · simp only [closed, List.length_append, List.length_cons] at h
    omega

theorem mem_openings_of_not_closed (o : Opening) (h : ∀ body rest, behind ≠ stepsAll body ++ .closeBlock :: rest) :
    o ∈ openings (o.before ++ .openBlock o.header :: behind) := by
  induction behind using List.reverseRecOn with
  | nil =>
      rw [openings_concat]
      exact List.mem_cons_self
  | append_singleton behind s ih =>
      have hmem := ih fun body rest hbehind => h body (rest ++ [s]) (by rw [hbehind, List.append_assoc]; rfl)
      rw [← List.cons_append, ← List.append_assoc, openings_concat]
      cases s with
      | line | blank => exact hmem
      | openBlock header => exact List.mem_cons_of_mem _ hmem
      | closeBlock =>
          cases hblocks : openings (o.before ++ .openBlock o.header :: behind) with
          | nil =>
              rw [hblocks] at hmem
              cases hmem
          | cons inner outer =>
              rw [hblocks] at hmem
              rcases List.mem_cons.mp hmem with rfl | hmem
              · -- The block itself is the innermost, so the step closes it behind whole code.
                obtain ⟨-, body, hsteps⟩ := openings_eq_cons_iff.mp hblocks
                have hbody : behind = stepsAll body := List.cons.inj (List.append_cancel_left hsteps) |>.2
                exact absurd (by rw [hbody]) (h body [])
              · exact hmem

theorem mem_openings_iff : o ∈ openings steps ↔ o.IsOpenAfter steps := by
  constructor
  · intro h
    obtain ⟨behind, hsteps⟩ := exists_behind_of_mem h
    refine ⟨behind, hsteps, fun body rest hbehind => ?_⟩
    rw [hsteps, hbehind] at h
    exact not_mem_openings_closed o body rest h
  · rintro ⟨behind, rfl, h⟩
    exact mem_openings_of_not_closed o h

theorem pairwise_openings (steps : List Step) :
    (openings steps).Pairwise fun inner outer => outer.before.length < inner.before.length := by
  induction steps using List.reverseRecOn with
  | nil => exact .nil
  | append_singleton steps s ih =>
      rw [openings_concat]
      cases s with
      | line | blank => exact ih
      | openBlock header => exact .cons (fun _ h => length_before_lt h) ih
      | closeBlock => exact ih.tail

def Adds (steps : List Step) (s : Step) (added : String) : Prop :=
  (run {} (steps ++ [s])).text = (run {} steps).text ++ added

theorem adds_line (steps : List Step) (s : String) : Adds steps (.line s) (indented (openings steps).length s) := by
  rw [Adds, run_concat, ← depth_run, step, line_eq]

theorem adds_blank (steps : List Step) : Adds steps .blank "\n" := by
  rw [Adds, run_concat]
  rfl

theorem adds_openBlock (steps : List Step) (header : String) :
    Adds steps (.openBlock header)
      (indented (openings steps).length header ++ indented (openings steps).length "\x7b") := by
  rw [Adds, run_concat, ← depth_run, step, openBlock_eq]

theorem adds_closeBlock (steps : List Step) :
    Adds steps .closeBlock (indented (openings steps).tail.length "\x7d") := by
  rw [Adds, run_concat, List.length_tail, ← depth_run, step, closeBlock, line_eq]

theorem exists_adds (steps : List Step) (s : Step) : ∃ added, Adds steps s added := by
  cases s with
  | line s => exact ⟨_, adds_line steps s⟩
  | blank => exact ⟨_, adds_blank steps⟩
  | openBlock header => exact ⟨_, adds_openBlock steps header⟩
  | closeBlock => exact ⟨_, adds_closeBlock steps⟩

/-- A block is closed where it was opened, in whatever sequence of steps. The counter of a writer is the number of
blocks that no step has closed yet, and a step that closes none of them leaves it at zero. -/
theorem blocks_close_where_they_open (steps : List Step) :
    (∀ s, ∃ added, Adds steps s added) ∧
    (run {} steps).depth = (openings steps).length ∧
    (∀ o, o ∈ openings steps ↔ o.IsOpenAfter steps) ∧
    (openings steps).Pairwise (fun inner outer => outer.before.length < inner.before.length) ∧
    (∀ s, Adds steps (.line s) (indented (openings steps).length s)) ∧
    (openings steps = [] →
      Adds steps .closeBlock "\x7d\n" ∧ (run {} (steps ++ [.closeBlock])).depth = 0) ∧
    ∀ o outer,
      (openings steps = o :: outer ↔
        openings o.before = outer ∧ ∃ body, steps = o.before ++ .openBlock o.header :: stepsAll body) ∧
      (openings steps = o :: outer →
        Adds o.before (.openBlock o.header) (indented outer.length o.header ++ indented outer.length "\x7b") ∧
        Adds steps .closeBlock (indented outer.length "\x7d") ∧ openings (steps ++ [.closeBlock]) = outer) := by
  have hclose := adds_closeBlock steps
  refine ⟨exists_adds steps, depth_run steps, fun o => mem_openings_iff, pairwise_openings steps, adds_line steps,
    fun hnone => ?_, fun o outer => ⟨openings_eq_cons_iff, fun hopen => ?_⟩⟩
  · rw [hnone] at hclose
    refine ⟨hclose, ?_⟩
    rw [depth_run, openings_concat, hnone]
    rfl
  · have hbefore := adds_openBlock o.before o.header
    rw [(openings_eq_cons_iff.mp hopen).1] at hbefore
    rw [hopen] at hclose
    refine ⟨hbefore, hclose, ?_⟩
    rw [openings_concat, hopen]
    rfl

end WireShadow.CSharp.Writer

namespace WireShadow.Sample

open CSharp

def unbalanced : List Writer.Step :=
  [.closeBlock, .openBlock "outer", .openBlock "first", .closeBlock, .blank, .openBlock "second", .line "code"]

end WireShadow.Sample

namespace WireShadow.CSharp.Writer

open Sample

theorem blocks_close_where_they_open_unbalanced :
    openings [] = [] ∧ Adds [] .closeBlock "\x7d\n" ∧
      openings unbalanced = [⟨unbalanced.take 5, "second"⟩, ⟨[.closeBlock], "outer"⟩] ∧
      Adds (unbalanced.take 5) (.openBlock "second") "    second\n    \x7b\n" ∧
      Adds unbalanced .closeBlock "    \x7d\n" := by
  obtain ⟨-, -, -, -, -, hsurplus, -⟩ := blocks_close_where_they_open []
  obtain ⟨-, -, -, -, -, -, hmatch⟩ := blocks_close_where_they_open unbalanced
  have hopen : openings unbalanced = [⟨unbalanced.take 5, "second"⟩, ⟨[.closeBlock], "outer"⟩] := rfl
  obtain ⟨hbefore, hclose, -⟩ := (hmatch _ _).2 hopen
  exact ⟨rfl, (hsurplus rfl).1, hopen, hbefore, hclose⟩

end WireShadow.CSharp.Writer
