import WireShadow.Proofs.Report

namespace WireShadow

namespace Pass

variable {α β : Type}

def polls (n : Nat) : Pass Unit := checkpoints (List.replicate n ())

theorem polls_succ (n : Nat) : polls (n + 1) = (do checkpoint; polls n) := rfl

theorem polls_one : polls 1 = checkpoint := bind_pure checkpoint

theorem checkpoints_eq_polls (items : List α) : checkpoints items = polls items.length := by
  induction items with
  | nil => rfl
  | cons item items ih => rw [checkpoints, ih, List.length_cons, polls_succ]

theorem polls_add (m n : Nat) : polls (m + n) = (do polls m; polls n) := by
  induction m with
  | zero => rw [Nat.zero_add]; exact (pure_bind () fun _ => polls n).symm
  | succ m ih => rw [Nat.succ_add, polls_succ, ih, polls_succ, bind_assoc]

theorem ofExcept_ok (a : α) : ofExcept (.ok a) = (pure a : Pass α) := rfl

theorem ofExcept_error_bind (e : Failure) (f : α → Pass β) :
    (ofExcept (.error e) >>= f) = ofExcept (.error e) :=
  funext fun _ => bind_error rfl

theorem ofExcept_bind_pure (x : Except Failure α) (f : α → β) :
    (do let a ← ofExcept x; return f a : Pass β) = ofExcept (x.map f) := by
  cases x with
  | error e => exact ofExcept_error_bind e _
  | ok a => exact pure_bind a _

theorem polls_cancelled {n : Nat} (hn : n ≠ 0) : polls n .cancelled = (.error .cancelled, .cancelled) := by
  obtain ⟨n, rfl⟩ := Nat.exists_eq_succ_of_ne_zero hn
  rw [polls_succ]
  exact bind_error rfl

theorem polls_cases (n : Nat) (t : Token) : ∃ t', polls n t = (.ok (), t') ∨ polls n t = (.error .cancelled, t') := by
  induction n generalizing t with
  | zero => exact ⟨t, .inl rfl⟩
  | succ n ih =>
      rw [polls_succ]
      cases hcancelled : t.isCancelled with
      | true =>
          have hpoll : checkpoint t = (.error .cancelled, t.polled) := if_pos hcancelled
          exact ⟨_, .inr (bind_error hpoll)⟩
      | false =>
          have hpoll : checkpoint t = (.ok (), t.polled) := if_neg (by simp [hcancelled])
          rw [bind_ok hpoll]
          exact ih t.polled

end Pass

/-- Work on a type as it looks from outside: some polls, each of which can end it, and then its result. -/
structure Course where
  polls : Nat
  result : Except Failure (Option GeneratedUnit)

namespace Course

variable {c : Course}

def run (c : Course) : Pass (Option GeneratedUnit) := do
  Pass.polls c.polls
  Pass.ofExcept c.result

theorem run_never (c : Course) : c.run.outcome .never = c.result :=
  congrArg Prod.fst (Pass.bind_ok (Pass.checkpoints_never _))

theorem run_cancelled (h : c.polls ≠ 0) : c.run.outcome .cancelled = .error .cancelled :=
  congrArg Prod.fst (Pass.bind_error (Pass.polls_cancelled h))

theorem run_cases (c : Course) (t : Token) : c.run.outcome t = c.result ∨ c.run.outcome t = .error .cancelled := by
  obtain ⟨t', h | h⟩ := Pass.polls_cases c.polls t
  · exact .inl (congrArg Prod.fst (Pass.bind_ok h))
  · exact .inr (congrArg Prod.fst (Pass.bind_error h))

end Course

namespace TypeNode

variable {g : Graph} {settings : Settings} {node : TypeNode}

/-- The properties are polled for before all else, then the candidates, and last the text. -/
def course (g : Graph) (settings : Settings) (node : TypeNode) : Course :=
  let v := settings.vocabulary
  let a := node.analysis g v
  if !node.decl.isRoot v then { polls := 0, result := .ok none }
  else if a.candidates.isEmpty then { polls := node.decl.properties.length, result := .ok none }
  else
    match a.heads g with
    | .error failure => { polls := node.decl.properties.length, result := .error failure }
    | .ok heads =>
      { polls := node.decl.properties.length + a.candidates.length + 1
        result := ((a.descriptor heads).emit settings).map some }

theorem describe_ok {a : RootAnalysis} {heads : TypeHead × List TypeHead} (h : a.heads g = .ok heads) :
    a.describe g = (do Pass.polls a.candidates.length; return a.descriptor heads) := by
  rw [RootAnalysis.describe, h, Pass.ofExcept_ok, pure_bind, Pass.checkpoints_eq_polls]
  rfl

theorem describe_error {a : RootAnalysis} {failure : Failure} (h : a.heads g = .error failure) :
    a.describe g = Pass.ofExcept (.error failure) := by
  rw [RootAnalysis.describe, h, Pass.ofExcept_error_bind]

theorem generateRoot_eq_run (g : Graph) (settings : Settings) (node : TypeNode) :
    generateRoot g settings node = (node.course g settings).run := by
  rw [generateRoot, course, analyze]
  cases hroot : node.decl.isRoot settings.vocabulary with
  | false =>
      simp only [Bool.false_eq_true, if_false, Bool.not_false, if_true, pure_bind]
      rfl
  | true =>
      simp only [if_true, Bool.not_true, Bool.false_eq_true, if_false, bind_assoc, pure_bind,
        Pass.checkpoints_eq_polls]
      cases hempty : (node.analysis g settings.vocabulary).candidates.isEmpty with
      | true => rfl
      | false =>
          simp only [Bool.false_eq_true, if_false]
          cases hheads : (node.analysis g settings.vocabulary).heads g with
          | error failure =>
              rw [describe_error hheads, Pass.ofExcept_error_bind]
              rfl
          | ok heads =>
              simp only [describe_ok hheads, bind_assoc, pure_bind, Pass.ofExcept_bind_pure]
              simp only [Course.run, Pass.polls_add, Pass.polls_one, bind_assoc]

theorem outcome_never_or_cancelled (g : Graph) (settings : Settings) (node : TypeNode) (t : Token) :
    (generateRoot g settings node).outcome t = (generateRoot g settings node).outcome .never ∨
      (generateRoot g settings node).outcome t = .error .cancelled := by
  rw [generateRoot_eq_run, Course.run_never]
  exact Course.run_cases _ t

theorem course_of_properties_nil (hroot : node.decl.isRoot settings.vocabulary)
    (h : node.decl.properties = []) : node.course g settings = { polls := 0, result := .ok none } := by
  have hempty : (node.analysis g settings.vocabulary).candidates.isEmpty = true := by
    rw [analysis, h]
    rfl
  simp only [course, hroot, hempty, h, Bool.not_true, Bool.false_eq_true, if_false, if_true]
  rfl

theorem polls_course_ne_zero (hroot : node.decl.isRoot settings.vocabulary)
    (h : node.decl.properties ≠ []) : (node.course g settings).polls ≠ 0 := by
  have hlen : node.decl.properties.length ≠ 0 := fun hlen => h (List.length_eq_zero_iff.mp hlen)
  simp only [course, hroot, Bool.not_true, Bool.false_eq_true, if_false]
  split
  · exact hlen
  · split
    · exact hlen
    · exact Nat.succ_ne_zero _

theorem outcome_cancelled (hroot : node.decl.isRoot settings.vocabulary) :
    (generateRoot g settings node).outcome .cancelled =
      if node.decl.properties.isEmpty then .ok none else .error .cancelled := by
  rw [generateRoot_eq_run]
  split
  · next h =>
      rw [course_of_properties_nil hroot (List.isEmpty_iff.mp h)]
      rfl
  · next h => exact Course.run_cancelled (polls_course_ne_zero hroot (by simpa using h))

end TypeNode

namespace TypeNode

variable {g : Graph} {v : Vocabulary} {node : TypeNode} {d : TypeDescriptor} {token : Token}

theorem exists_heads_of_describe (h : (node.describe g v).outcome token = .ok (some d)) :
    ∃ heads, (node.analysis g v).heads g = .ok heads ∧ d = (node.analysis g v).descriptor heads := by
  cases hroot : node.decl.isRoot v with
  | false =>
      simp only [describe, analyze, hroot, Bool.false_eq_true, if_false, pure_bind] at h
      cases h
  | true =>
      simp only [describe, analyze, hroot, if_true, bind_assoc, pure_bind, Pass.checkpoints_eq_polls] at h
      obtain ⟨token', hpolls | hpolls⟩ := Pass.polls_cases node.decl.properties.length token
      · rw [Pass.outcome, Pass.bind_ok hpolls] at h
        cases hheads : (node.analysis g v).heads g with
        | error failure =>
            rw [describe_error hheads, Pass.ofExcept_error_bind] at h
            cases h
        | ok heads =>
            rw [describe_ok hheads, bind_assoc] at h
            obtain ⟨token'', hpolls | hpolls⟩ := Pass.polls_cases (node.analysis g v).candidates.length token'
            · rw [Pass.bind_ok hpolls] at h
              cases h
              exact ⟨heads, rfl, rfl⟩
            · rw [Pass.bind_error hpolls] at h
              cases h
      · rw [Pass.outcome, Pass.bind_error hpolls] at h
        cases h

end TypeNode

namespace Report

variable {nodes : List TypeNode} {outcome outcome' : TypeNode → Except Failure (Option GeneratedUnit)}

theorem units_sublist (h : ∀ node ∈ nodes, outcome' node = outcome node ∨ outcome' node = .error .cancelled) :
    (ofOutcomes (nodes.map fun node => (node, outcome' node))).units.Sublist
      (ofOutcomes (nodes.map fun node => (node, outcome node))).units := by
  induction nodes with
  | nil => exact .slnil
  | cons node nodes ih =>
      obtain ⟨hnode, hnodes⟩ := List.forall_mem_cons.mp h
      have hrest := ih hnodes
      simp only [ofOutcomes, List.map_cons, List.filterMap_cons] at hrest ⊢
      rcases hnode with heq | heq <;> rw [heq]
      · cases houtcome : outcome node with
        | error failure => exact hrest
        | ok result =>
            cases result with
            | none => exact hrest
            | some result => exact hrest.cons_cons result
      · cases houtcome : outcome node with
        | error failure => exact hrest
        | ok result =>
            cases result with
            | none => exact hrest
            | some result => exact hrest.cons result

theorem exists_of_mem_failures {failure : String × Failure}
    (h : failure ∈ (ofOutcomes (nodes.map fun node => (node, outcome node))).failures) :
    ∃ node ∈ nodes, node.qualifiedName = failure.1 := by
  obtain ⟨pair, hpair, hfailure⟩ := List.mem_filterMap.mp h
  obtain ⟨node, hnode, rfl⟩ := List.mem_map.mp hpair
  cases houtcome : outcome node with
  | error e => simp only [houtcome] at hfailure; cases hfailure; exact ⟨node, hnode, rfl⟩
  | ok result => simp only [houtcome] at hfailure; cases hfailure

theorem filter_failures (hnames : (nodes.map (·.qualifiedName)).Nodup) {node : TypeNode} (hnode : node ∈ nodes)
    {failure : Failure} (h : outcome node = .error failure) :
    (ofOutcomes (nodes.map fun node => (node, outcome node))).failures.filter (·.1 == node.qualifiedName) =
      [(node.qualifiedName, failure)] := by
  induction nodes with
  | nil => cases hnode
  | cons first nodes ih =>
      obtain ⟨hfirst, hnames⟩ := List.nodup_cons.mp hnames
      rcases List.mem_cons.mp hnode with rfl | hnode
      · have hrest : (ofOutcomes (nodes.map fun node => (node, outcome node))).failures.filter
            (·.1 == node.qualifiedName) = [] := by
          refine List.filter_eq_nil_iff.mpr fun other hother heq => hfirst ?_
          obtain ⟨node', hnode', hname⟩ := exists_of_mem_failures hother
          exact List.mem_map.mpr ⟨node', hnode', hname.trans (by simpa using heq)⟩
        simp only [ofOutcomes, List.map_cons, List.filterMap_cons, h] at hrest ⊢
        rw [List.filter_cons_of_pos (by simp), hrest]
      · have hne : first.qualifiedName ≠ node.qualifiedName := fun heq =>
          hfirst (List.mem_map.mpr ⟨node, hnode, heq.symm⟩)
        have hrest := ih hnames hnode
        simp only [ofOutcomes, List.map_cons, List.filterMap_cons] at hrest ⊢
        cases houtcome : outcome first with
        | error e => simpa [hne] using hrest
        | ok result => exact hrest

end Report

namespace Graph

variable {g : Graph} {settings : Settings}

theorem generate_cancelled (g : Graph) (settings : Settings) :
    g.generate settings .cancelled =
      { units := []
        failures := ((g.roots settings.vocabulary).filter (!·.decl.properties.isEmpty)).map fun node =>
          (node.qualifiedName, .cancelled) } := by
  have hroots : ∀ node ∈ g.roots settings.vocabulary, node.decl.isRoot settings.vocabulary = true :=
    fun node hnode => (List.mem_filter.mp hnode).2
  rw [generate, generateWith]
  generalize g.roots settings.vocabulary = nodes at hroots
  induction nodes with
  | nil => rfl
  | cons node nodes ih =>
      obtain ⟨hroot, hroots⟩ := List.forall_mem_cons.mp hroots
      have hrest := ih hroots
      simp only [Report.ofOutcomes, Report.mk.injEq] at hrest
      simp only [Report.ofOutcomes, List.map_cons, List.filterMap_cons, TypeNode.outcome_cancelled hroot]
      cases hempty : node.decl.properties.isEmpty with
      | true =>
          rw [List.filter_cons_of_neg (by simp [hempty])]
          exact congrArg₂ Report.mk hrest.1 hrest.2
      | false =>
          rw [List.filter_cons_of_pos (by simp [hempty]), List.map_cons]
          exact congrArg₂ Report.mk hrest.1 (congrArg _ hrest.2)

theorem covers_generate_never (g : Graph) (settings : Settings) :
    Report.Covers g settings (g.shadowed settings.vocabulary) (g.generate settings .never) :=
  Report.covers_ofOutcomes fun _ hnode => (List.mem_filter.mp hnode).2

theorem units_generateWith_sublist (g : Graph) (settings : Settings) (token : TypeNode → Token) :
    (g.generateWith settings token).units.Sublist (g.generate settings .never).units :=
  Report.units_sublist fun node _ => TypeNode.outcome_never_or_cancelled g settings node (token node)

/-- Whatever the tokens do, a file is one that its type gives when nobody cancels the work. -/
theorem exists_generates_of_mem_units {token : TypeNode → Token} {file : GeneratedUnit}
    (h : file ∈ (g.generateWith settings token).units) :
    ∃ node ∈ g.roots settings.vocabulary, node.Generates g settings file := by
  obtain ⟨node, hnode, hfile⟩ := exists_of_mem_forall₂ (covers_generate_never g settings).units
    ((units_generateWith_sublist g settings token).subset h)
  exact ⟨node, (List.mem_filter.mp (List.mem_filter.mp hnode).1).1, hfile⟩

end Graph

end WireShadow
