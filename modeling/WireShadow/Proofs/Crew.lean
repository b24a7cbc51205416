import Mathlib.Tactic.Choose
import WireShadow.Proofs.Course
import WireShadow.Proofs.MemberTags
import WireShadow.Proofs.Placement

namespace WireShadow

namespace Course

def poll (isCancelled : Bool) (c : Course) : Course :=
  match c.polls with
  | 0 => c
  | n + 1 => if isCancelled then { polls := 0, result := .error .cancelled } else { c with polls := n }

/-- How far work can get: it is still on its way, though no step further if it was cancelled early, or a poll
has ended it. -/
inductive Reaches (early : Bool) (c : Course) : Course → Prop
  | underway (n) (hle : n ≤ c.polls) (hearly : early → n = c.polls) : Reaches early c { c with polls := n }
  | ended (hpolls : c.polls ≠ 0) : Reaches early c { polls := 0, result := .error .cancelled }

variable {early isCancelled : Bool} {c c' : Course}

theorem polls_poll (isCancelled : Bool) (c : Course) : (c.poll isCancelled).polls ≤ c.polls - 1 := by
  rw [poll]
  split
  · next h => exact h ▸ Nat.le_refl 0
  · next n h =>
      have hpred : c.polls - 1 = n := by rw [h, Nat.succ_sub_one]
      split
      · exact Nat.zero_le _
      · exact hpred.symm ▸ Nat.le_refl n

theorem Reaches.poll (h : c.Reaches early c') (hearly : early → isCancelled) :
    c.Reaches early (c'.poll isCancelled) := by
  cases h with
  | ended hpolls => exact .ended hpolls
  | underway n hle hstill =>
      cases n with
      | zero => exact .underway 0 hle hstill
      | succ n =>
          cases isCancelled with
          | true => exact .ended (Nat.ne_of_gt (Nat.lt_of_lt_of_le n.succ_pos hle))
          | false => exact .underway n (Nat.le_of_succ_le hle) fun h => Bool.noConfusion (hearly h)

theorem run_of_polls_eq_zero (h : c.polls = 0) (t : Token) : c.run.outcome t = c.result := by
  rw [run, h]
  rfl

theorem Reaches.exists_token (h : c.Reaches early c') :
    ∃ t, (early → t = .cancelled) ∧ (c'.polls = 0 → c'.result = c.run.outcome t) := by
  cases h with
  | ended hpolls => exact ⟨.cancelled, fun _ => rfl, fun _ => (run_cancelled hpolls).symm⟩
  | underway n hle hstill =>
      cases early with
      | false => exact ⟨.never, Bool.noConfusion, fun _ => c.run_never.symm⟩
      | true =>
          refine ⟨.cancelled, fun _ => rfl, fun hn => ?_⟩
          exact (run_of_polls_eq_zero ((hstill rfl).symm.trans hn) .cancelled).symm

end Course

/-- Work on many types at once, under one flag. -/
structure Crew where
  isCancelled : Bool
  course : TypeNode → Course

namespace Crew

inductive Event
  | cancel
  | poll (id : Nat)
deriving DecidableEq, Repr

def apply (crew : Crew) : Event → Crew
  | .cancel => { crew with isCancelled := true }
  | .poll id =>
    { crew with
      course := fun node =>
        if node.id = id then (crew.course node).poll crew.isCancelled else crew.course node }

def run (crew : Crew) (events : List Event) : Crew := events.foldl apply crew

def IsFinished (crew : Crew) (nodes : List TypeNode) : Prop := ∀ node ∈ nodes, (crew.course node).polls = 0

instance (crew : Crew) (nodes : List TypeNode) : Decidable (crew.IsFinished nodes) :=
  inferInstanceAs (Decidable (∀ node ∈ nodes, (crew.course node).polls = 0))

def report (crew : Crew) (nodes : List TypeNode) : Report :=
  .ofOutcomes (nodes.map fun node => (node, (crew.course node).result))

def start (g : Graph) (settings : Settings) (isCancelled : Bool) : Crew :=
  { isCancelled, course := fun node => node.course g settings }

/-- The flag is never taken back, and all work is within its reach. -/
structure Follows (first crew : Crew) : Prop where
  isCancelled : first.isCancelled → crew.isCancelled
  course : ∀ node, (first.course node).Reaches first.isCancelled (crew.course node)

variable {first crew : Crew} {nodes : List TypeNode}

theorem Follows.refl (crew : Crew) : Follows crew crew where
  isCancelled := id
  course := fun _ => .underway _ (Nat.le_refl _) fun _ => rfl

theorem Follows.apply (h : Follows first crew) (event : Event) : Follows first (crew.apply event) := by
  cases event with
  | cancel => exact ⟨fun _ => rfl, h.course⟩
  | poll id =>
      refine ⟨h.isCancelled, fun node => ?_⟩
      simp only [Crew.apply]
      split
      · exact (h.course node).poll h.isCancelled
      · exact h.course node

theorem Follows.run (h : Follows first crew) (events : List Event) : Follows first (crew.run events) := by
  induction events generalizing crew with
  | nil => exact h
  | cons event events ih => exact ih (h.apply event)

theorem run_append (crew : Crew) (events events' : List Event) :
    crew.run (events ++ events') = (crew.run events).run events' := List.foldl_append

theorem polls_apply_le (crew : Crew) (event : Event) (node : TypeNode) :
    ((crew.apply event).course node).polls ≤ (crew.course node).polls := by
  cases event with
  | cancel => exact Nat.le_refl _
  | poll id =>
      simp only [apply]
      split
      · exact Nat.le_trans (Course.polls_poll _ _) (Nat.sub_le _ 1)
      · exact Nat.le_refl _

theorem polls_run_le (crew : Crew) (events : List Event) (node : TypeNode) :
    ((crew.run events).course node).polls ≤ (crew.course node).polls := by
  induction events generalizing crew with
  | nil => exact Nat.le_refl _
  | cons event events ih => exact Nat.le_trans (ih (crew.apply event)) (polls_apply_le crew event node)

theorem polls_run_replicate {crew : Crew} {node : TypeNode} {n : Nat} (h : (crew.course node).polls ≤ n) :
    ((crew.run (List.replicate n (.poll node.id))).course node).polls = 0 := by
  induction n generalizing crew with
  | zero => exact Nat.le_zero.mp h
  | succ n ih =>
      have hle : ((crew.apply (.poll node.id)).course node).polls ≤ n := by
        simp only [apply, if_true]
        exact Nat.le_trans (Course.polls_poll _ _) (Nat.sub_le_of_le_add h)
      exact ih hle

theorem exists_isFinished (crew : Crew) (nodes : List TypeNode) : ∃ events, (crew.run events).IsFinished nodes := by
  induction nodes with
  | nil => exact ⟨[], fun _ hnode => absurd hnode List.not_mem_nil⟩
  | cons node nodes ih =>
      obtain ⟨events, hevents⟩ := ih
      refine ⟨events ++ List.replicate ((crew.run events).course node).polls (.poll node.id), ?_⟩
      rw [run_append, IsFinished, List.forall_mem_cons]
      refine ⟨polls_run_replicate (Nat.le_refl _), fun other hother => Nat.le_zero.mp ?_⟩
      exact Nat.le_trans (polls_run_le _ _ other) (Nat.le_of_eq (hevents other hother))

/-- A crew that is done reports what comes of the types one by one, each with a token of its own. -/
theorem exists_report_eq {g : Graph} {settings : Settings} {isCancelled : Bool} {events : List Event}
    (h : ((start g settings isCancelled).run events).IsFinished nodes) :
    ∃ token : TypeNode → Token, (isCancelled → token = fun _ => .cancelled) ∧
      ((start g settings isCancelled).run events).report nodes =
        .ofOutcomes (nodes.map fun node => (node, (generateRoot g settings node).outcome (token node))) := by
  have hfollows := (Follows.refl (start g settings isCancelled)).run events
  choose token hearly hresult using fun node => (hfollows.course node).exists_token
  refine ⟨token, fun hcancelled => funext fun node => hearly node hcancelled, ?_⟩
  refine congrArg Report.ofOutcomes (List.map_congr_left fun node hnode => ?_)
  rw [hresult node (h node hnode), TypeNode.generateRoot_eq_run]
  rfl

end Crew

namespace Sample

def events : List Crew.Event := [.poll 1, .poll 3, .cancel, .poll 1]

def crew : Crew := (Crew.start graph {} false).run events

end Sample

namespace Graph

/-- Whenever the work is cancelled and however its parts take turns, each type comes out as if nobody had
cancelled or fails as cancelled. So some files are missing and the others are as they would be. -/
theorem cancellation_is_atomic {types : List DeclTree} {g : Graph} (hg : ofTypes types = .ok g)
    (settings : Settings) :
    (∀ isCancelled events, ∃ more,
      ((Crew.start g settings isCancelled).run (events ++ more)).IsFinished (g.roots settings.vocabulary)) ∧
    (∀ isCancelled events,
      ((Crew.start g settings isCancelled).run events).IsFinished (g.roots settings.vocabulary) →
      ∃ token : TypeNode → Token, (isCancelled → token = fun _ => .cancelled) ∧
        ((Crew.start g settings isCancelled).run events).report (g.roots settings.vocabulary) =
          g.generateWith settings token) ∧
    (∀ token : TypeNode → Token,
      (g.generateWith settings token).units.Sublist (g.generate settings .never).units ∧
      ∀ node ∈ g.roots settings.vocabulary,
        (generateRoot g settings node).outcome (token node) = (generateRoot g settings node).outcome .never ∨
          (generateRoot g settings node).outcome (token node) = .error .cancelled ∧
            (g.generateWith settings token).failures.filter (·.1 == node.qualifiedName) =
              [(node.qualifiedName, .cancelled)]) ∧
    g.generate settings .cancelled =
      { units := []
        failures := ((g.roots settings.vocabulary).filter (!·.decl.properties.isEmpty)).map fun node =>
          (node.qualifiedName, .cancelled) } := by
  have hnames : ((g.roots settings.vocabulary).map (·.qualifiedName)).Nodup :=
    (nodup_names hg).sublist (List.filter_sublist.map _)
  refine ⟨fun isCancelled events => ?_, fun isCancelled events h => Crew.exists_report_eq h, fun token => ⟨?_, ?_⟩,
    generate_cancelled g settings⟩
  · simp only [Crew.run_append]
    exact Crew.exists_isFinished _ _
  · exact Report.units_sublist fun node _ => TypeNode.outcome_never_or_cancelled g settings node (token node)
  · intro node hnode
    let outcome (node : TypeNode) := (generateRoot g settings node).outcome (token node)
    have hfilter (h : outcome node = .error .cancelled) := Report.filter_failures hnames hnode h
    exact (TypeNode.outcome_never_or_cancelled g settings node (token node)).imp_right fun h => ⟨h, hfilter h⟩

theorem cancellation_is_atomic_sample :
    ofTypes Sample.types = .ok Sample.graph ∧ Sample.crew.IsFinished (Sample.graph.roots {}) ∧
      ∃ token : TypeNode → Token,
        Sample.crew.report (Sample.graph.roots {}) = Sample.graph.generateWith {} token ∧
        (Sample.graph.generateWith {} token).units.Sublist (Sample.graph.generate {} .never).units ∧
        (Sample.graph.generateWith {} token).failures.map (fun failure => (failure.1, failure.2.isCancellation)) =
          [("Test.Shop.Order", true), ("Test.Colors.Shade", false)] := by
  have hfinished : Sample.crew.IsFinished (Sample.graph.roots {}) := by decide +kernel
  obtain ⟨-, hreport, hatomic, -⟩ := cancellation_is_atomic Sample.ofTypes_types {}
  obtain ⟨token, -, htoken⟩ : ∃ token : TypeNode → Token, _ ∧ Sample.crew.report _ = _ :=
    hreport false Sample.events hfinished
  refine ⟨Sample.ofTypes_types, hfinished, token, htoken, (hatomic token).1, ?_⟩
  rw [← htoken]
  decide +kernel

end Graph

end WireShadow
