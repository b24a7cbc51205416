import WireShadow.Cancellation
import WireShadow.Proofs.Lists

namespace WireShadow.Flags

def start : Flags := { isSet := [], handles := [] }

def after (past : List Action) : Flags := past.foldl apply start

theorem after_concat (past : List Action) (action : Action) :
    after (past ++ [action]) = (after past).apply action := by
  rw [after, List.foldl_append]
  rfl

inductive Item
  | handle (place : Nat)
  | token (place : Nat)

/-- The flag behind a handle or token that exists. A token may have none. -/
def flag? (f : Flags) : Item → Option (Option Nat)
  | .handle h => f.handles[h]?.map some
  | .token t => f.tokens[t]?

/-- The family of each handle and token, by what was done so far. A new handle starts a family of its own, which
has the number of this handle among the new ones. Tokens that are never cancelled, and their clones, have none. -/
inductive Belongs : List Action → Item → Option Nat → Prop
  | newHandle (past : List Action) :
      Belongs (past ++ [.newHandle]) (.handle (after past).handles.length) (some (past.count .newHandle))
  | cloneHandle {past : List Action} {h : Nat} {family : Option Nat} (hfamily : Belongs past (.handle h) family) :
      Belongs (past ++ [.cloneHandle h]) (.handle (after past).handles.length) family
  | takeToken {past : List Action} {h : Nat} {family : Option Nat} (hfamily : Belongs past (.handle h) family) :
      Belongs (past ++ [.takeToken h]) (.token (after past).tokens.length) family
  | neverToken (past : List Action) : Belongs (past ++ [.neverToken]) (.token (after past).tokens.length) none
  | cloneToken {past : List Action} {t : Nat} {family : Option Nat} (hfamily : Belongs past (.token t) family) :
      Belongs (past ++ [.cloneToken t]) (.token (after past).tokens.length) family
  | later {past : List Action} {item : Item} {family : Option Nat} (hfamily : Belongs past item family)
      (action : Action) : Belongs (past ++ [action]) item family

/-- A handle of the family was cancelled, which the family had by then. -/
def CancelledIn (past : List Action) (family : Nat) : Prop :=
  ∃ (before : List Action) (h : Nat) (rest : List Action),
    past = before ++ .cancel h :: rest ∧ Belongs before (.handle h) (some family)

section Step

variable (f : Flags)

def madeHandle? : Action → Option Nat
  | .newHandle => some f.isSet.length
  | .cloneHandle h => f.handles[h]?
  | .cancel _ | .takeToken _ | .neverToken | .cloneToken _ => none

def madeToken? : Action → Option (Option Nat)
  | .takeToken h => f.handles[h]?.map some
  | .neverToken => some none
  | .cloneToken t => f.tokens[t]?
  | .newHandle | .cloneHandle _ | .cancel _ => none

theorem handles_apply (action : Action) :
    (f.apply action).handles = f.handles ++ (f.madeHandle? action).toList := by
  cases action with
  | newHandle | cloneHandle h => rfl
  | takeToken h | neverToken | cloneToken t => exact (List.append_nil _).symm
  | cancel h =>
      rw [apply]
      split <;> exact (List.append_nil _).symm

theorem tokens_apply (action : Action) :
    (f.apply action).tokens = f.tokens ++ (f.madeToken? action).toList := by
  cases action with
  | takeToken h => simp [apply, madeToken?, Option.toList_map]
  | neverToken | cloneToken t => rfl
  | newHandle | cloneHandle h => exact (List.append_nil _).symm
  | cancel h =>
      rw [apply]
      split <;> exact (List.append_nil _).symm

theorem flagIsSet_iff {flag : Nat} : f.flagIsSet flag ↔ f.isSet[flag]? = some true := by
  rw [flagIsSet, beq_iff_eq]

variable {f} {action : Action} {item : Item} {flag : Nat}

def Makes (f : Flags) (action : Action) (flag : Option Nat) : Item → Prop
  | .handle h => f.handles.length = h ∧ (f.madeHandle? action).map some = some flag
  | .token t => f.tokens.length = t ∧ f.madeToken? action = some flag

theorem flag?_apply {o : Option Nat} :
    (f.apply action).flag? item = some o ↔ f.flag? item = some o ∨ f.Makes action o item := by
  cases item with
  | handle h =>
      simp only [flag?, Makes, handles_apply, Option.map_eq_some_iff, getElem?_append_toList, or_and_right, exists_or,
        and_assoc, exists_and_left]
  | token t => rw [flag?, tokens_apply, getElem?_append_toList, flag?, Makes]

theorem flagIsSet_apply :
    (f.apply action).flagIsSet flag ↔
      f.flagIsSet flag ∨ flag < f.isSet.length ∧ ∃ h, action = .cancel h ∧ f.handles[h]? = some flag := by
  simp only [flagIsSet_iff]
  cases action with
  | newHandle =>
      have hnew : (f.isSet ++ (some false).toList)[flag]? = some true ↔ _ := getElem?_append_toList
      change (f.isSet ++ [false])[flag]? = some true ↔ _
      simpa using hnew
  | cancel h =>
      rw [apply]
      split
      · next hnone => simp [hnone]
      · next other hother =>
          by_cases hflag : other = flag
          · subst hflag
            by_cases hlt : other < f.isSet.length <;> simp [hother, hlt]
          · simp [hother, hflag]
  | cloneHandle h | takeToken h | neverToken | cloneToken t => simp [apply]

theorem handleIsCancelled_iff {h : Nat} :
    f.handleIsCancelled h ↔ ∃ flag, f.flag? (.handle h) = some (some flag) ∧ f.flagIsSet flag := by
  simp [handleIsCancelled, flag?, Option.any_eq_true]

theorem tokenIsCancelled_iff {t : Nat} :
    f.tokenIsCancelled t ↔ ∃ flag, f.flag? (.token t) = some (some flag) ∧ f.flagIsSet flag := by
  simp [tokenIsCancelled, flag?, Option.any_eq_true, Option.join_eq_some_iff]

end Step

theorem length_isSet_after (past : List Action) : (after past).isSet.length = past.count .newHandle := by
  induction past using List.reverseRecOn with
  | nil => rfl
  | append_singleton past action ih =>
      rw [after_concat, List.count_append]
      cases action with
      | newHandle => simp [apply, ih]
      | cancel h =>
          rw [apply]
          split
          · exact ih
          · rw [List.length_set]
            exact ih
      | cloneHandle h | takeToken h | neverToken | cloneToken t => exact ih

section History

variable {past : List Action} {item : Item} {family : Option Nat}

theorem flag?_of_belongs (h : Belongs past item family) : (after past).flag? item = some family := by
  induction h with
  | newHandle past =>
      rw [after_concat, flag?_apply, ← length_isSet_after]
      exact .inr ⟨rfl, rfl⟩
  | cloneHandle _ ih | takeToken _ ih | cloneToken _ ih =>
      rw [after_concat, flag?_apply]
      exact .inr ⟨rfl, ih⟩
  | neverToken past =>
      rw [after_concat, flag?_apply]
      exact .inr ⟨rfl, rfl⟩
  | later _ action ih =>
      rw [after_concat, flag?_apply]
      exact .inl ih

theorem belongs_of_makes (hold : ∀ item family, (after past).flag? item = some family → Belongs past item family)
    {action : Action} (h : (after past).Makes action family item) : Belongs (past ++ [action]) item family := by
  cases item with
  | handle i =>
      obtain ⟨rfl, hflag⟩ := h
      cases action with
      | newHandle =>
          cases hflag
          rw [length_isSet_after]
          exact .newHandle past
      | cloneHandle h => exact .cloneHandle (hold (.handle h) family hflag)
      | cancel _ | takeToken _ | neverToken | cloneToken _ => cases hflag
  | token i =>
      obtain ⟨rfl, hflag⟩ := h
      cases action with
      | takeToken h => exact .takeToken (hold (.handle h) family hflag)
      | neverToken =>
          cases hflag
          exact .neverToken past
      | cloneToken t => exact .cloneToken (hold (.token t) family hflag)
      | newHandle | cloneHandle _ | cancel _ => cases hflag

theorem belongs_iff : Belongs past item family ↔ (after past).flag? item = some family := by
  refine ⟨flag?_of_belongs, fun h => ?_⟩
  induction past using List.reverseRecOn generalizing item family with
  | nil => cases item <;> cases h
  | append_singleton past action ih =>
      rw [after_concat, flag?_apply] at h
      exact h.elim (fun hold => .later (ih hold) action) (belongs_of_makes fun _ _ => ih)

theorem lt_count_of_belongs (h : Belongs past item family) :
    ∀ number ∈ family, number < past.count .newHandle := by
  induction h with
  | newHandle past => simp
  | neverToken past => simp
  | cloneHandle _ ih | takeToken _ ih | cloneToken _ ih | later _ _ ih =>
      intro number hnumber
      rw [List.count_append]
      exact Nat.lt_add_right _ (ih number hnumber)

theorem cancelledIn_concat {action : Action} {number : Nat} :
    CancelledIn (past ++ [action]) number ↔
      CancelledIn past number ∨ ∃ h, action = .cancel h ∧ Belongs past (.handle h) (some number) := by
  constructor
  · rintro ⟨before, h, rest, heq, hfamily⟩
    rcases List.eq_nil_or_concat rest with rfl | ⟨rest, last, rfl⟩
    · obtain ⟨rfl, hlast⟩ := List.append_inj' heq rfl
      exact .inr ⟨h, List.singleton_inj.mp hlast, hfamily⟩
    · rw [List.concat_eq_append, ← List.cons_append, ← List.append_assoc] at heq
      exact .inl ⟨before, h, rest, (List.append_inj' heq rfl).1, hfamily⟩
  · rintro (⟨before, h, rest, rfl, hfamily⟩ | ⟨h, rfl, hfamily⟩)
    · exact ⟨before, h, rest ++ [action], List.append_assoc _ _ _, hfamily⟩
    · exact ⟨past, h, [], rfl, hfamily⟩

theorem flagIsSet_after (past : List Action) (number : Nat) :
    (after past).flagIsSet number ↔ CancelledIn past number := by
  induction past using List.reverseRecOn with
  | nil =>
      refine ⟨fun h => (Bool.noConfusion h : False).elim, ?_⟩
      rintro ⟨before, h, rest, heq, -⟩
      simp at heq
  | append_singleton past action ih =>
      rw [after_concat, flagIsSet_apply, ih, cancelledIn_concat]
      refine or_congr_right ⟨?_, ?_⟩
      · rintro ⟨-, h, rfl, hflag⟩
        exact ⟨h, rfl, belongs_iff.mpr (by rw [flag?, hflag]; rfl)⟩
      · rintro ⟨h, rfl, hfamily⟩
        -- A cancel sets nothing behind the last flag, so the family must be one of those that were started.
        have hlt := lt_count_of_belongs hfamily number rfl
        rw [← length_isSet_after] at hlt
        exact ⟨hlt, h, rfl, by simpa [flag?] using flag?_of_belongs hfamily⟩

end History

structure Shows (f : Flags) (past : List Action) : Prop where
  handle : ∀ h < f.handles.length, ∃! family : Nat, Belongs past (.handle h) (some family)
  token : ∀ t < f.tokens.length, ∃! family : Option Nat, Belongs past (.token t) family
  handleIsCancelled : ∀ h family, Belongs past (.handle h) (some family) →
    (f.handleIsCancelled h ↔ CancelledIn past family)
  tokenIsCancelled : ∀ t family, Belongs past (.token t) (some family) →
    (f.tokenIsCancelled t ↔ CancelledIn past family)
  never : ∀ t, Belongs past (.token t) none → f.tokenIsCancelled t = false
  check : ∀ t, (f.check t = .error .cancelled ↔ f.tokenIsCancelled t) ∧
    (f.check t = .ok () ↔ f.tokenIsCancelled t = false)

def Keeps (f f' : Flags) : Prop :=
  (∀ h, f.handleIsCancelled h → f'.handleIsCancelled h) ∧ ∀ t, f.tokenIsCancelled t → f'.tokenIsCancelled t

theorem Keeps.trans {f f' f'' : Flags} (h : f.Keeps f') (h' : f'.Keeps f'') : f.Keeps f'' :=
  ⟨fun handle hset => h'.1 handle (h.1 handle hset), fun token hset => h'.2 token (h.2 token hset)⟩

theorem keeps_apply (f : Flags) (action : Action) : f.Keeps (f.apply action) := by
  constructor
  · intro h hset
    obtain ⟨flag, hflag, hset⟩ := handleIsCancelled_iff.mp hset
    exact handleIsCancelled_iff.mpr ⟨flag, flag?_apply.mpr (.inl hflag), flagIsSet_apply.mpr (.inl hset)⟩
  · intro t hset
    obtain ⟨flag, hflag, hset⟩ := tokenIsCancelled_iff.mp hset
    exact tokenIsCancelled_iff.mpr ⟨flag, flag?_apply.mpr (.inl hflag), flagIsSet_apply.mpr (.inl hset)⟩

theorem keeps_run (f : Flags) (actions : List Action) : ∀ f' ∈ f.run actions, f.Keeps f' := by
  induction actions generalizing f with
  | nil => exact fun _ h => absurd h List.not_mem_nil
  | cons action actions ih =>
      exact List.forall_mem_cons.mpr ⟨keeps_apply f action, fun f' h => (keeps_apply f action).trans (ih _ f' h)⟩

theorem pairwise_run (f : Flags) (actions : List Action) : (f.run actions).Pairwise Keeps := by
  induction actions generalizing f with
  | nil => exact .nil
  | cons action actions ih => exact .cons (keeps_run _ actions) (ih _)

theorem shows_after (past : List Action) : (after past).Shows past where
  handle h hlt := by
    have hflag : (after past).flag? (.handle h) = some (some (after past).handles[h]) := by
      rw [flag?, List.getElem?_eq_getElem hlt]
      rfl
    refine ⟨_, belongs_iff.mpr hflag, fun family hfamily => ?_⟩
    exact (Option.some.inj (Option.some.inj (hflag.symm.trans (belongs_iff.mp hfamily)))).symm
  token t hlt := by
    have hflag : (after past).flag? (.token t) = some (after past).tokens[t] := List.getElem?_eq_getElem hlt
    refine ⟨_, belongs_iff.mpr hflag, fun family hfamily => ?_⟩
    exact (Option.some.inj (hflag.symm.trans (belongs_iff.mp hfamily))).symm
  handleIsCancelled h family hfamily := by
    simp [handleIsCancelled_iff, belongs_iff.mp hfamily, flagIsSet_after]
  tokenIsCancelled t family hfamily := by
    simp [tokenIsCancelled_iff, belongs_iff.mp hfamily, flagIsSet_after]
  never t hfamily := by
    simp [Bool.eq_false_iff, tokenIsCancelled_iff, belongs_iff.mp hfamily]
  check t := by
    rw [check]
    split <;> simp_all

theorem run_eq (f : Flags) (actions : List Action) :
    f.run actions = actions.inits.tail.map fun past => past.foldl apply f := by
  induction actions generalizing f with
  | nil => rfl
  | cons action actions ih =>
      have hinits : actions.inits = [] :: actions.inits.tail := by cases actions <;> rfl
      rw [run, ih, List.inits_cons, List.tail_cons, List.map_map, hinits]
      rfl

/-- Whatever is done, after each step a handle or token is cancelled if a handle of its family was, and else not. -/
theorem cancellation_follows_families (actions : List Action) :
    List.Forall₂ Shows (start.run actions) actions.inits.tail ∧ (start.run actions).Pairwise Keeps := by
  refine ⟨?_, pairwise_run start actions⟩
  rw [run_eq, List.forall₂_map_left_iff, List.forall₂_same]
  exact fun past _ => shows_after past

end WireShadow.Flags
