import Mathlib.Data.List.Induction
import Mathlib.Data.List.Nodup
import Mathlib.Data.List.ReduceOption

namespace WireShadow.Earlier

variable {α β κ : Type}

/-- The reports on the items of a list, each in the light of the items before it. -/
def reports (say : List α → α → Option β) (xs : List α) : List β :=
  (xs.mapIdx fun i x => say (xs.take i) x).reduceOption

theorem reports_nil (say : List α → α → Option β) : reports say [] = [] := rfl

theorem reports_cons (say : List α → α → Option β) (x : α) (xs : List α) :
    reports say (x :: xs) = (say [] x).toList ++ reports (fun earlier => say (x :: earlier)) xs := by
  rw [reports, List.mapIdx_cons]
  cases hsay : say [] x with
  | none => rw [List.take_zero, hsay, List.reduceOption_cons_of_none]; rfl
  | some report => rw [List.take_zero, hsay, List.reduceOption_cons_of_some]; rfl

theorem reports_append_cons (say : List α → α → Option β) (earlier : List α) (x : α) (xs : List α) :
    reports (fun before => say (earlier ++ before)) (x :: xs) =
      (say earlier x).toList ++ reports (fun before => say (earlier ++ [x] ++ before)) xs := by
  rw [reports_cons, List.append_nil]
  simp only [List.append_assoc, List.cons_append, List.nil_append]

theorem reports_eq_nil_iff {say : List α → α → Option β} {xs : List α} :
    reports say xs = [] ↔ ∀ before x after, xs = before ++ x :: after → say before x = none := by
  induction xs generalizing say with
  | nil => simp [reports_nil]
  | cons x xs ih =>
      rw [reports_cons, List.append_eq_nil_iff, Option.toList_eq_nil_iff, ih]
      constructor
      · rintro ⟨hfirst, hrest⟩ before y after heq
        cases before with
        | nil => cases heq; exact hfirst
        | cons z before => cases heq; exact hrest before y after rfl
      · intro h
        exact ⟨h [] x xs rfl, fun before y after heq => h (x :: before) y after (by rw [heq]; rfl)⟩

/-- The first report is on the first item that there is one on. -/
theorem head?_reports_eq_some_iff {say : List α → α → Option β} {xs : List α} {report : β} :
    (reports say xs).head? = some report ↔
      ∃ before x after, xs = before ++ x :: after ∧ reports say before = [] ∧ say before x = some report := by
  induction xs generalizing say with
  | nil => simp [reports_nil]
  | cons x xs ih =>
      rw [reports_cons]
      constructor
      · intro h
        cases hsay : say [] x with
        | some first =>
            rw [hsay] at h
            cases h
            exact ⟨[], x, xs, rfl, reports_nil say, hsay⟩
        | none =>
            rw [hsay, Option.toList_none, List.nil_append] at h
            obtain ⟨before, y, after, rfl, hbefore, hy⟩ := ih.mp h
            exact ⟨x :: before, y, after, rfl, by rw [reports_cons, hsay, hbefore]; rfl, hy⟩
      · rintro ⟨before, y, after, heq, hbefore, hy⟩
        cases before with
        | nil =>
            cases heq
            rw [hy]
            rfl
        | cons z before =>
            cases heq
            rw [reports_cons, List.append_eq_nil_iff, Option.toList_eq_nil_iff] at hbefore
            rw [hbefore.1]
            exact ih.mpr ⟨before, y, after, rfl, hbefore.2, hy⟩

theorem nodup_of_reports_eq_nil {say : List α → α → Option β} {key : α → Option κ} {xs : List α}
    (hsay : ∀ before x k, key x = some k → k ∈ before.filterMap key → (say before x).isSome)
    (h : reports say xs = []) : (xs.filterMap key).Nodup := by
  rw [reports_eq_nil_iff] at h
  induction xs using List.reverseRecOn with
  | nil => exact .nil
  | append_singleton xs x ih =>
      have hxs := ih fun before y after heq => h before y (after ++ [x]) (by rw [heq]; simp)
      rw [List.filterMap_append]
      cases hkey : key x with
      | none => simpa [hkey] using hxs
      | some k =>
          have hfresh : k ∉ xs.filterMap key := fun hk => by
            have hsome := hsay xs x k hkey hk
            rw [h xs x [] rfl] at hsome
            cases hsome
          rw [List.filterMap_cons_some hkey, List.filterMap_nil, List.nodup_append]
          refine ⟨hxs, List.nodup_singleton k, fun k' hk' l hl heq => ?_⟩
          rw [heq, List.mem_singleton.mp hl] at hk'
          exact hfresh hk'

/-- A table that has the owner of the first item of each key, for the items seen. -/
def Records [BEq κ] [DecidableEq κ] (key : α → Option κ) (owner : α → String) (seen : List α)
    (table : List (κ × String)) : Prop :=
  ∀ k, table.lookup k = (seen.find? fun x => key x = some k).map owner

namespace Records

variable [BEq κ] [DecidableEq κ] {key : α → Option κ} {owner : α → String} {seen : List α}
  {table : List (κ × String)}

theorem nil (key : α → Option κ) (owner : α → String) : Records key owner [] [] := fun _ => rfl

theorem skip (h : Records key owner seen table) {x : α} (hx : key x = none) :
    Records key owner (seen ++ [x]) table := fun k => by
  rw [h k, List.find?_append]
  simp [hx]

theorem known (h : Records key owner seen table) {x : α} {k : κ} (hx : key x = some k) {name : String}
    (hk : table.lookup k = some name) : Records key owner (seen ++ [x]) table := fun k' => by
  rw [h k', List.find?_append]
  by_cases heq : k = k'
  · subst heq
    rw [h k] at hk
    obtain ⟨first, hfirst, -⟩ := Option.map_eq_some_iff.mp hk
    rw [hfirst]
    rfl
  · simp [hx, heq]

theorem insert [LawfulBEq κ] (h : Records key owner seen table) {x : α} {k : κ} (hx : key x = some k)
    (hk : table.lookup k = none) : Records key owner (seen ++ [x]) ((k, owner x) :: table) := fun k' => by
  rw [List.lookup_cons, List.find?_append]
  by_cases heq : k' = k
  · subst heq
    rw [h k', Option.map_eq_none_iff] at hk
    simp [hk, hx]
  · have hbeq : (k' == k) = false := beq_eq_false_iff_ne.mpr heq
    simp [h k', hx, hbeq, Ne.symm heq]

end Records

end WireShadow.Earlier
