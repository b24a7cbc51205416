import Mathlib.Data.List.DropRight
import Mathlib.Data.List.Find
import Mathlib.Data.List.Forall2
import Mathlib.Data.List.Infix
import Mathlib.Data.Option.Basic

namespace WireShadow

theorem append_cons_inj {α : Type} {xs ys zs ws : List α} {c : α} (hz : c ∉ zs) (hw : c ∉ ws)
    (h : xs ++ c :: zs = ys ++ c :: ws) : xs = ys ∧ zs = ws := by
  rcases List.append_eq_append_iff.mp h with ⟨us, hys, htail⟩ | ⟨us, hxs, htail⟩
  · cases us with
    | nil =>
        cases htail
        exact ⟨by rw [hys, List.append_nil], rfl⟩
    | cons u us =>
        cases htail
        exact absurd (List.mem_append_right us List.mem_cons_self) hz
  · cases us with
    | nil =>
        cases htail
        exact ⟨by rw [hxs, List.append_nil], rfl⟩
    | cons u us =>
        cases htail
        exact absurd (List.mem_append_right us List.mem_cons_self) hw

theorem append_inj_of_head? {α : Type} {sign : α} {xs ys zs ws : List α} (hx : sign ∉ xs) (hy : sign ∉ ys)
    (hz : ∀ c ∈ zs.head?, c = sign) (hw : ∀ c ∈ ws.head?, c = sign) (h : xs ++ zs = ys ++ ws) : xs = ys ∧ zs = ws := by
  rcases List.append_eq_append_iff.mp h with ⟨us, hys, hzs⟩ | ⟨us, hxs, hws⟩
  · cases us with
    | nil => exact ⟨by rw [hys, List.append_nil], hzs⟩
    | cons u us =>
        obtain rfl : u = sign := hz u (by simp [hzs])
        exact absurd (hys ▸ List.mem_append_right xs List.mem_cons_self) hy
  · cases us with
    | nil => exact ⟨by rw [hxs, List.append_nil], hws.symm⟩
    | cons u us =>
        obtain rfl : u = sign := hw u (by simp [hws])
        exact absurd (hxs ▸ List.mem_append_right ys List.mem_cons_self) hx

theorem mem_intercalate {α : Type} {sep : List α} {parts : List (List α)} {x : α} (h : x ∈ sep.intercalate parts) :
    x ∈ sep ∨ ∃ part ∈ parts, x ∈ part := by
  induction parts with
  | nil => cases h
  | cons part parts ih =>
      cases parts with
      | nil =>
          rw [List.intercalate_singleton] at h
          exact .inr ⟨part, List.mem_cons_self, h⟩
      | cons part' parts =>
          rw [List.intercalate_cons_cons, List.mem_append, List.mem_append] at h
          rcases h with (h | h) | h
          · exact .inr ⟨part, List.mem_cons_self, h⟩
          · exact .inl h
          · exact (ih h).imp_right fun ⟨p, hp, hx⟩ => ⟨p, List.mem_cons_of_mem part hp, hx⟩

theorem rdropWhile_append_cons {α : Type} {p : α → Bool} {x : α} (hx : p x = false) (xs ys : List α) :
    (xs ++ x :: ys).rdropWhile p = xs ++ x :: ys.rdropWhile p := by
  induction ys using List.reverseRecOn with
  | nil => rw [List.rdropWhile_concat_neg _ _ _ (by simp [hx]), List.rdropWhile_nil]
  | append_singleton ys y ih =>
      rw [← List.cons_append, ← List.append_assoc, List.rdropWhile_concat, List.rdropWhile_concat, ih]
      split
      · rfl
      · rw [List.append_assoc, List.cons_append]

theorem getElem?_append_toList {α : Type} {as : List α} {o : Option α} {i : Nat} {a : α} :
    (as ++ o.toList)[i]? = some a ↔ as[i]? = some a ∨ as.length = i ∧ o = some a := by
  cases o with
  | none => simp
  | some b =>
      rw [Option.toList_some, List.getElem?_append]
      split
      · next hlt => simp [Nat.ne_of_gt hlt]
      · next hle =>
          have hlength : i - as.length = 0 ↔ as.length = i := by omega
          simp [List.getElem?_singleton, List.getElem?_eq_none (Nat.not_lt.mp hle), hlength]

theorem modify_append_of_lt {α : Type} (f : α → α) {xs : List α} {i : Nat} (h : i < xs.length) (ys : List α) :
    (xs ++ ys).modify i f = xs.modify i f ++ ys := by
  induction xs generalizing i with
  | nil => cases h
  | cons x xs ih =>
      cases i with
      | zero => rfl
      | succ i => exact congrArg (x :: ·) (ih (Nat.lt_of_succ_lt_succ h))

theorem modify_length_append {α : Type} (f : α → α) (xs : List α) (x : α) (ys : List α) :
    (xs ++ x :: ys).modify xs.length f = xs ++ f x :: ys := by
  induction xs with
  | nil => rfl
  | cons first xs ih => exact congrArg (first :: ·) ih

theorem findSome?_filter {α β : Type} (p : α → Bool) (f : α → Option β) (xs : List α) :
    (xs.filter p).findSome? f = xs.findSome? fun x => if p x then f x else none := by
  induction xs with
  | nil => rfl
  | cons x xs ih => by_cases hx : p x <;> simp [hx, List.findSome?_cons, ih]

theorem find?_reverse_eq_some_iff {α : Type} {p : α → Bool} {xs : List α} {x : α} :
    xs.reverse.find? p = some x ↔
      p x = true ∧ ∃ before after, xs = before ++ x :: after ∧ ∀ y ∈ after, p y = false := by
  rw [List.find?_eq_some_iff_append]
  refine and_congr_right fun _ => ⟨?_, ?_⟩
  · rintro ⟨after, before, heq, hafter⟩
    refine ⟨before.reverse, after.reverse, ?_, fun y hy => ?_⟩
    · rw [← List.reverse_inj, heq]
      simp
    · simpa using hafter y (List.mem_reverse.mp hy)
  · rintro ⟨before, after, rfl, hafter⟩
    refine ⟨after.reverse, before.reverse, by simp, fun y hy => ?_⟩
    rw [hafter y (List.mem_reverse.mp hy)]
    rfl

theorem lookup_filter_ne {α κ : Type} [BEq κ] [LawfulBEq κ] {place p : κ} (hne : p ≠ place) (entries : List (κ × α)) :
    (entries.filter (·.1 != place)).lookup p = entries.lookup p := by
  induction entries with
  | nil => rfl
  | cons entry entries ih =>
      by_cases hplace : entry.1 = place
      · have hmiss : (p == entry.1) = false := by simp [hplace, hne]
        rw [List.filter_cons_of_neg (by simp [hplace]), ih, List.lookup_cons, hmiss]
      · rw [List.filter_cons_of_pos (by simp [hplace]), List.lookup_cons, List.lookup_cons, ih]

theorem lookup_map_pair {α β κ : Type} [DecidableEq κ] (key : α → κ) (value : α → β) (xs : List α) (k : κ) :
    (xs.map fun x => (key x, value x)).lookup k = (xs.find? (key · == k)).map value := by
  induction xs with
  | nil => rfl
  | cons x xs ih =>
      rw [List.map_cons, List.lookup_cons, List.find?_cons, ih, BEq.comm]
      cases key x == k <;> rfl

theorem flatMap_ite {α β : Type} (test : α → Bool) (report : α → List β) (xs : List α) :
    (xs.flatMap fun x => if test x then report x else []) = (xs.filter test).flatMap report := by
  induction xs with
  | nil => rfl
  | cons x xs ih => cases htest : test x <;> simp [htest, ih]

theorem find?_eq_of_perm {α κ : Type} [DecidableEq κ] {key : α → κ} {xs ys : List α} (h : xs.Perm ys)
    (hkeys : (xs.map key).Nodup) (k : κ) :
    xs.find? (key · == k) = ys.find? (key · == k) := by
  induction h with
  | nil => rfl
  | cons x _ ih =>
      rw [List.find?_cons, List.find?_cons, ih (List.nodup_cons.mp hkeys).2]
  | swap x y xs =>
      have hne : key y ≠ key x := fun heq => (List.nodup_cons.mp hkeys).1 (heq ▸ List.mem_cons_self)
      by_cases hx : key x = k
      · simp [hx, hx ▸ hne]
      · simp [List.find?_cons, hx]
  | trans hxy _ ih ih' =>
      rw [ih hkeys, ih' ((hxy.map key).nodup_iff.mp hkeys)]

/-- What comes of the members of two lists is the same up to order if the members can be matched so that matched ones
give the same. -/
theorem flatMap_perm_of_map_perm {α β γ κ : Type} {f : α → κ} {f' : β → κ} {xs : List α} {ys : List β}
    (h : (xs.map f).Perm (ys.map f')) {out : α → List γ} {out' : β → List γ}
    (hout : ∀ x ∈ xs, ∀ y ∈ ys, f x = f' y → out x = out' y) : (xs.flatMap out).Perm (ys.flatMap out') := by
  induction xs generalizing ys with
  | nil =>
      obtain rfl : ys = [] := List.map_eq_nil_iff.mp h.nil_eq.symm
      exact .nil
  | cons x xs ih =>
      obtain ⟨y, hy, hxy⟩ := List.mem_map.mp (h.subset List.mem_cons_self)
      obtain ⟨before, after, rfl⟩ := List.append_of_mem hy
      have hrest : (xs.map f).Perm ((before ++ after).map f') := by
        have hmiddle : (before ++ y :: after).Perm (y :: (before ++ after)) := List.perm_middle
        have hfront := h.trans (hmiddle.map f')
        rw [List.map_cons, List.map_cons, hxy] at hfront
        exact hfront.cons_inv
      have hsame := ih hrest fun x hx y' hy' => hout x (List.mem_cons_of_mem _ hx) y' (by grind)
      rw [List.flatMap_cons, hout x List.mem_cons_self y hy hxy.symm]
      exact (hsame.append_left (out' y)).trans (List.perm_middle.symm.flatMap_right out')

section Traversal

variable {α β ε : Type} {f : α → Except ε β} {xs : List α}

theorem exists_mapM_eq_ok (h : ∀ x ∈ xs, ∃ y, f x = .ok y) : ∃ ys, xs.mapM f = .ok ys := by
  induction xs with
  | nil => exact ⟨[], rfl⟩
  | cons x xs ih =>
      obtain ⟨⟨y, hy⟩, hxs⟩ := List.forall_mem_cons.mp h
      obtain ⟨ys, hys⟩ := ih hxs
      rw [List.mapM_cons, hy, hys]
      exact ⟨y :: ys, rfl⟩

theorem forall₂_of_mapM_eq_ok {ys : List β} (h : xs.mapM f = .ok ys) :
    List.Forall₂ (fun x y => f x = .ok y) xs ys := by
  induction xs generalizing ys with
  | nil => cases h; exact .nil
  | cons x xs ih =>
      rw [List.mapM_cons] at h
      cases hx : f x with
      | error e => rw [hx] at h; cases h
      | ok y =>
          cases hxs : xs.mapM f with
          | error e => rw [hx, hxs] at h; cases h
          | ok zs =>
              rw [hx, hxs] at h
              cases h
              exact .cons hx (ih hxs)

theorem mapM_eq_ok_iff {ys : List β} : xs.mapM f = .ok ys ↔ List.Forall₂ (fun x y => f x = .ok y) xs ys := by
  refine ⟨forall₂_of_mapM_eq_ok, fun h => ?_⟩
  induction h with
  | nil => rfl
  | cons hxy _ ih =>
      rw [List.mapM_cons, hxy, ih]
      rfl

theorem mapM_eq_error {before after : List α} {x : α} {e : ε} (hbefore : ∀ y ∈ before, ∃ z, f y = .ok z)
    (hx : f x = .error e) : (before ++ x :: after).mapM f = .error e := by
  obtain ⟨zs, hzs⟩ := exists_mapM_eq_ok hbefore
  rw [List.mapM_append, hzs, List.mapM_cons, hx]
  rfl

theorem mapM_eq_error_iff {e : ε} : xs.mapM f = .error e ↔
    ∃ before x after, xs = before ++ x :: after ∧ (∀ y ∈ before, ∃ z, f y = .ok z) ∧ f x = .error e := by
  refine ⟨fun h => ?_, fun ⟨_, _, _, hxs, hbefore, hx⟩ => hxs ▸ mapM_eq_error hbefore hx⟩
  induction xs with
  | nil => cases h
  | cons x xs ih =>
      rw [List.mapM_cons] at h
      cases hx : f x with
      | error e' =>
          rw [hx] at h
          cases h
          exact ⟨[], x, xs, rfl, by simp, hx⟩
      | ok y =>
          cases hxs : xs.mapM f with
          | ok ys => rw [hx, hxs] at h; cases h
          | error e' =>
              rw [hx, hxs] at h
              cases h
              obtain ⟨before, x', after, rfl, hbefore, hx'⟩ := ih hxs
              exact ⟨x :: before, x', after, rfl, List.forall_mem_cons.mpr ⟨⟨y, hx⟩, hbefore⟩, hx'⟩

end Traversal

section Pairs

variable {α β κ : Type} {R : α → β → Prop} {xs : List α} {ys : List β}

theorem exists_of_mem_forall₂ (h : List.Forall₂ R xs ys) {y : β} (hy : y ∈ ys) : ∃ x ∈ xs, R x y := by
  induction h with
  | nil => cases hy
  | cons hxy _ ih =>
      rcases List.mem_cons.mp hy with rfl | hy
      · exact ⟨_, List.mem_cons_self, hxy⟩
      · obtain ⟨x, hx, hxy⟩ := ih hy
        exact ⟨x, List.mem_cons_of_mem _ hx, hxy⟩

theorem nodup_map_of_forall₂ {key : β → κ} (h : List.Forall₂ R xs ys) (hxs : xs.Nodup)
    (hkey : ∀ x ∈ xs, ∀ x' ∈ xs, ∀ y y', R x y → R x' y' → key y = key y' → x = x') : (ys.map key).Nodup := by
  induction h with
  | nil => exact .nil
  | @cons x y xs ys hxy hrest ih =>
      obtain ⟨hx, hxs⟩ := List.nodup_cons.mp hxs
      refine List.nodup_cons.mpr ⟨fun hmem => ?_, ih hxs fun x hx x' hx' =>
        hkey x (List.mem_cons_of_mem _ hx) x' (List.mem_cons_of_mem _ hx')⟩
      obtain ⟨y', hy', heq⟩ := List.mem_map.mp hmem
      obtain ⟨x', hx', hxy'⟩ := exists_of_mem_forall₂ hrest hy'
      exact hx (hkey x' (List.mem_cons_of_mem _ hx') x List.mem_cons_self y' y hxy' hxy heq ▸ hx')

end Pairs

section Related

variable {α β : Type} {R : α → α → Prop} {f : α → β}

theorem map_eq_of_forall₂ (hf : ∀ x y, R x y → f y = f x) {xs ys : List α} (h : List.Forall₂ R xs ys) :
    ys.map f = xs.map f := by
  induction h with
  | nil => rfl
  | cons hxy _ ih => rw [List.map_cons, List.map_cons, hf _ _ hxy, ih]

theorem map_eq_of_rel (hf : ∀ x y, R x y → f y = f x) {x y : Option α} (h : Option.Rel R x y) :
    y.map f = x.map f := by
  cases h with
  | none => rfl
  | some hxy => exact congrArg some (hf _ _ hxy)

end Related

end WireShadow
