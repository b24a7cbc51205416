import WireShadow.Tag

namespace WireShadow

/-- The tags are the smallest free ones, in ascending order. How many they are is left open, so that
the tags of a type and those of an extension of it can be compared. -/
structure FirstTags (free : Nat → Prop) (tags : List Nat) : Prop where
  ascending : tags.Pairwise (· < ·)
  allFree : ∀ t ∈ tags, free t
  least : ∀ t, free t → t ∉ tags → ∀ u ∈ tags, u < t

namespace FirstTags

variable {free free' : Nat → Prop} {tags tags' : List Nat}

theorem head_le {x t : Nat} (h : FirstTags free (x :: tags)) (ht : free t) : x ≤ t := by
  by_cases hm : t ∈ x :: tags
  · rcases List.mem_cons.mp hm with rfl | hm
    · exact Nat.le_refl t
    · exact Nat.le_of_lt ((List.pairwise_cons.mp h.ascending).1 t hm)
  · exact Nat.le_of_lt (h.least t ht hm x List.mem_cons_self)

theorem mono (h : FirstTags free tags) (hle : ∀ t, free' t → free t) (hfree : ∀ t ∈ tags, free' t) :
    FirstTags free' tags :=
  ⟨h.ascending, hfree, fun t ht => h.least t (hle t ht)⟩

theorem erase {t : Nat} (h : FirstTags free (tags ++ t :: tags')) :
    FirstTags (fun u => free u ∧ u ≠ t) (tags ++ tags') := by
  have hsub : (tags ++ tags').Sublist (tags ++ t :: tags') :=
    List.Sublist.append_left (List.sublist_cons_self t tags') tags
  obtain ⟨_, htail, hcross⟩ := List.pairwise_append.mp h.ascending
  refine ⟨h.ascending.sublist hsub, ?_, ?_⟩
  · intro u hu
    refine ⟨h.allFree u (hsub.mem hu), ?_⟩
    rintro rfl
    rcases List.mem_append.mp hu with hu | hu
    · exact Nat.lt_irrefl u (hcross u hu u List.mem_cons_self)
    · exact Nat.lt_irrefl u ((List.pairwise_cons.mp htail).1 u hu)
  · rintro u ⟨hu, hne⟩ hnot x hx
    refine h.least u hu ?_ x (hsub.mem hx)
    intro hm
    rcases List.mem_append.mp hm with hm | hm
    · exact hnot (List.mem_append_left _ hm)
    · rcases List.mem_cons.mp hm with rfl | hm
      · exact hne rfl
      · exact hnot (List.mem_append_right _ hm)

theorem tail {x : Nat} (h : FirstTags free (x :: tags)) : FirstTags (fun u => free u ∧ u ≠ x) tags :=
  erase (show FirstTags free ([] ++ x :: tags) from h)

theorem isPrefix (h : FirstTags free tags) (h' : FirstTags free tags')
    (hlen : tags.length ≤ tags'.length) : tags <+: tags' := by
  induction tags generalizing free tags' with
  | nil => exact List.nil_prefix
  | cons x xs ih =>
      cases tags' with
      | nil => simp at hlen
      | cons y ys =>
          have hxy : x ≤ y := h.head_le (h'.allFree y List.mem_cons_self)
          have hyx : y ≤ x := h'.head_le (h.allFree x List.mem_cons_self)
          obtain rfl : x = y := Nat.le_antisymm hxy hyx
          exact List.cons_prefix_cons.mpr ⟨rfl, ih h.tail h'.tail (Nat.le_of_succ_le_succ hlen)⟩

theorem eq_of_length (h : FirstTags free tags) (h' : FirstTags free tags')
    (hlen : tags.length = tags'.length) : tags = tags' :=
  (h.isPrefix h' (Nat.le_of_eq hlen)).eq_of_length hlen

end FirstTags

namespace TagSet

theorem firstFree_spec (tag : Nat) {ts : List Nat} (h : ts.Pairwise (· < ·)) :
    tag ≤ firstFree tag ts ∧ firstFree tag ts ∉ ts ∧ ∀ t, tag ≤ t → t < firstFree tag ts → t ∈ ts := by
  fun_induction firstFree tag ts with
  | case1 => exact ⟨Nat.le_refl _, List.not_mem_nil, fun t hle hlt => absurd hlt (Nat.not_lt.mpr hle)⟩
  | case2 tag t ts hlt ih =>
      obtain ⟨hle, hnot, hbelow⟩ := ih (List.pairwise_cons.mp h).2
      refine ⟨hle, ?_, fun u hu hu' => List.mem_cons_of_mem t (hbelow u hu hu')⟩
      simp only [List.mem_cons, not_or]
      exact ⟨by omega, hnot⟩
  | case3 t ts _ ih =>
      obtain ⟨hle, hnot, hbelow⟩ := ih (List.pairwise_cons.mp h).2
      refine ⟨Nat.le_of_succ_le hle, ?_, ?_⟩
      · simp only [List.mem_cons, not_or]
        exact ⟨by omega, hnot⟩
      · intro u hu hu'
        rcases Nat.eq_or_lt_of_le hu with rfl | hu
        · exact List.mem_cons_self
        · exact List.mem_cons_of_mem t (hbelow u hu hu')
  | case4 tag t ts hlt hne =>
      refine ⟨Nat.le_refl _, ?_, fun u hle hlt => absurd hlt (Nat.not_lt.mpr hle)⟩
      simp only [List.mem_cons, not_or]
      refine ⟨by omega, fun hm => ?_⟩
      have := (List.pairwise_cons.mp h).1 tag hm
      omega

theorem firstFree_eq {tag t : Nat} {ts : List Nat} (h : ts.Pairwise (· < ·)) (hle : tag ≤ t)
    (ht : t ∉ ts) (hbelow : ∀ u, tag ≤ u → u < t → u ∈ ts) : firstFree tag ts = t := by
  obtain ⟨hle', hnot, hbelow'⟩ := firstFree_spec tag h
  rcases Nat.lt_trichotomy (firstFree tag ts) t with hlt | heq | hgt
  · exact absurd (hbelow _ hle' hlt) hnot
  · exact heq
  · exact absurd (hbelow' t hle hgt) ht

theorem firstFree_of_mem {tag : Nat} {ts : List Nat} (h : ts.Pairwise (· < ·)) (ht : tag ∈ ts) :
    firstFree tag ts = firstFree (tag + 1) ts := by
  obtain ⟨hle, hnot, hbelow⟩ := firstFree_spec (tag + 1) h
  refine firstFree_eq h (Nat.le_of_succ_le hle) hnot fun u hu hu' => ?_
  rcases Nat.eq_or_lt_of_le hu with rfl | hu
  · exact ht
  · exact hbelow u hu hu'

theorem firstFree_of_not_mem {tag : Nat} {ts : List Nat} (h : ts.Pairwise (· < ·)) (ht : tag ∉ ts) :
    firstFree tag ts = tag :=
  firstFree_eq h (Nat.le_refl tag) ht fun _ hu hu' => absurd hu (Nat.not_le.mpr hu')

end TagSet

namespace TagAllocator

/-- On the way from one state of an allocator to another, exactly the free tags between the two places
of its cursor were given out, in ascending order. -/
structure Run (a : TagAllocator) (tags : List Nat) (b : TagAllocator) : Prop where
  claimed : b.claimed = a.claimed
  le : a.next ≤ b.next
  ascending : tags.Pairwise (· < ·)
  mem_iff : ∀ t, t ∈ tags ↔ a.next ≤ t ∧ t < b.next ∧ t ∉ a.claimed

namespace Run

variable {a b c : TagAllocator} {xs ys : List Nat}

theorem nil (a : TagAllocator) : Run a [] a :=
  ⟨rfl, Nat.le_refl _, .nil, fun t => by simp only [List.not_mem_nil, false_iff]; omega⟩

theorem append (h : Run a xs b) (h' : Run b ys c) : Run a (xs ++ ys) c := by
  refine ⟨h'.claimed.trans h.claimed, Nat.le_trans h.le h'.le, ?_, ?_⟩
  · refine List.pairwise_append.mpr ⟨h.ascending, h'.ascending, fun t ht u hu => ?_⟩
    exact Nat.lt_of_lt_of_le ((h.mem_iff t).mp ht).2.1 ((h'.mem_iff u).mp hu).1
  · intro t
    have hle := h.le
    have hle' := h'.le
    rw [List.mem_append, h.mem_iff, h'.mem_iff, h.claimed]
    constructor
    · rintro (⟨h1, h2, h3⟩ | ⟨h1, h2, h3⟩)
      · exact ⟨h1, by omega, h3⟩
      · exact ⟨by omega, h2, h3⟩
    · rintro ⟨h1, h2, h3⟩
      by_cases ht : t < b.next
      · exact .inl ⟨h1, ht, h3⟩
      · exact .inr ⟨by omega, h2, h3⟩

theorem next_le (h : Run a xs b) : b.next ≤ a.next + xs.length + a.claimed.tags.length := by
  have hsub : List.range' a.next (b.next - a.next) ⊆ xs ++ a.claimed.tags := by
    intro t ht
    rw [List.mem_range'_1] at ht
    by_cases hc : t ∈ a.claimed
    · exact List.mem_append_right _ hc
    · exact List.mem_append_left _ ((h.mem_iff t).mpr ⟨ht.1, by omega, hc⟩)
  have hlen := (List.nodup_range' (s := a.next)).length_le_of_subset hsub
  rw [List.length_range', List.length_append] at hlen
  omega

theorem firstTags (h : Run a xs b) : FirstTags (fun t => a.next ≤ t ∧ t ∉ a.claimed) xs := by
  refine ⟨h.ascending, fun t ht => ?_, fun t ht hnot u hu => ?_⟩
  · obtain ⟨h1, _, h3⟩ := (h.mem_iff t).mp ht
    exact ⟨h1, h3⟩
  · have hlt := ((h.mem_iff u).mp hu).2.1
    exact Nat.lt_of_not_le fun hle => hnot ((h.mem_iff t).mpr ⟨ht.1, by omega, ht.2⟩)

end Run

variable (a : TagAllocator)

theorem run_allocate : Run a [a.allocate.1] a.allocate.2 := by
  obtain ⟨hle, hnot, hbelow⟩ := TagSet.firstFree_spec a.next a.claimed.ascending
  refine ⟨rfl, Nat.le_succ_of_le hle, List.pairwise_singleton _ _, fun t => ?_⟩
  rw [List.mem_singleton]
  constructor
  · rintro rfl
    exact ⟨hle, Nat.lt_succ_self _, hnot⟩
  · rintro ⟨h1, h2, h3⟩
    rcases Nat.lt_or_eq_of_le (Nat.le_of_lt_succ h2) with hlt | heq
    · exact absurd (hbelow t h1 hlt) h3
    · exact heq

theorem run_allocateMany (n : Nat) : Run a (a.allocateMany n).1 (a.allocateMany n).2 := by
  induction n generalizing a with
  | zero => exact .nil a
  | succ n ih => exact (run_allocate a).append (ih a.allocate.2)

theorem length_allocateMany (n : Nat) : (a.allocateMany n).1.length = n := by
  induction n generalizing a with
  | zero => rfl
  | succ n ih => exact congrArg (· + 1) (ih a.allocate.2)

theorem next_allocateMany_le (claimed : TagSet) (next n : Nat) :
    ((TagAllocator.mk claimed next).allocateMany n).2.next ≤ next + n + claimed.tags.length := by
  have h := ((TagAllocator.mk claimed next).run_allocateMany n).next_le
  rwa [length_allocateMany] at h

theorem allocateMany_add (m n : Nat) :
    (a.allocateMany (m + n)).1 = (a.allocateMany m).1 ++ ((a.allocateMany m).2.allocateMany n).1 := by
  induction m generalizing a with
  | zero => rw [Nat.zero_add]; rfl
  | succ m ih =>
      rw [Nat.succ_add]
      exact congrArg (a.allocate.1 :: ·) (ih a.allocate.2)

end TagAllocator

end WireShadow
