import WireShadow.Proofs.Allocation

namespace WireShadow.WordCursor

/-- One step of the cursor, unless it would leave the word. -/
def advance (cursor : UInt32) : Option UInt32 :=
  if cursor.toNat + 1 < UInt32.size then some (cursor + 1) else none

theorem toNat_succ {cursor : UInt32} (h : cursor.toNat + 1 < UInt32.size) :
    (cursor + 1).toNat = cursor.toNat + 1 := by
  rw [UInt32.toNat_add]
  exact Nat.mod_eq_of_lt h

theorem advance_eq {cursor : UInt32} (h : cursor.toNat + 1 < UInt32.size) :
    advance cursor = some (cursor + 1) := if_pos h

def skipClaimed (claimed : TagSet) (cursor : UInt32) : Option UInt32 :=
  if cursor.toNat ∈ claimed then
    if _h : cursor.toNat + 1 < UInt32.size then skipClaimed claimed (cursor + 1) else none
  else some cursor
termination_by UInt32.size - cursor.toNat
decreasing_by rw [toNat_succ _h]; omega

def allocateMany (claimed : TagSet) (cursor : UInt32) : Nat → Option (List UInt32)
  | 0 => some []
  | n + 1 => do
    let tag ← skipClaimed claimed cursor
    let next ← advance tag
    let tags ← allocateMany claimed next n
    return tag :: tags

theorem skipClaimed_eq {claimed : TagSet} {cursor : UInt32}
    (h : TagSet.firstFree cursor.toNat claimed.tags < UInt32.size) :
    ∃ tag, skipClaimed claimed cursor = some tag ∧
      tag.toNat = TagSet.firstFree cursor.toNat claimed.tags := by
  fun_induction skipClaimed claimed cursor with
  | case1 cursor hmem hfits ih =>
      rw [TagSet.firstFree_of_mem claimed.ascending hmem, ← toNat_succ hfits] at h ⊢
      exact ih h
  | case2 cursor hmem hfull =>
      have hle := (TagSet.firstFree_spec (cursor.toNat + 1) claimed.ascending).1
      rw [TagSet.firstFree_of_mem claimed.ascending hmem] at h
      omega
  | case3 cursor hmem => exact ⟨cursor, rfl, (TagSet.firstFree_of_not_mem claimed.ascending hmem).symm⟩

/-- As long as the cursor ends inside the word, no step on the way leaves it, and the tags are those
that an unbounded cursor gives out. -/
theorem allocateMany_eq (claimed : TagSet) (cursor : UInt32) (n : Nat)
    (h : ((TagAllocator.mk claimed cursor.toNat).allocateMany n).2.next < UInt32.size) :
    (allocateMany claimed cursor n).map (·.map UInt32.toNat) =
      some ((TagAllocator.mk claimed cursor.toNat).allocateMany n).1 := by
  induction n generalizing cursor with
  | zero => rfl
  | succ n ih =>
      let a := TagAllocator.mk claimed cursor.toNat
      have hle : a.allocate.2.next ≤ (a.allocateMany (n + 1)).2.next :=
        (TagAllocator.run_allocateMany a.allocate.2 n).le
      have hfits : TagSet.firstFree cursor.toNat claimed.tags + 1 < UInt32.size := Nat.lt_of_le_of_lt hle h
      obtain ⟨tag, htag, heq⟩ := skipClaimed_eq (Nat.lt_of_succ_lt hfits)
      rw [← heq] at hfits
      have hnext : a.allocate.2 = TagAllocator.mk claimed (tag + 1).toNat := by
        rw [toNat_succ hfits, heq]
        rfl
      have hrest := ih (tag + 1) (by rw [← hnext]; exact h)
      obtain ⟨tags, htags, hmap⟩ := Option.map_eq_some_iff.mp hrest
      have hrun : allocateMany claimed cursor (n + 1) = some (tag :: tags) := by
        simp only [allocateMany, htag, advance_eq hfits, htags, Option.bind_eq_bind, Option.bind_some]
        rfl
      rw [hrun, Option.map_some, List.map_cons, hmap, heq, ← hnext]
      rfl

end WireShadow.WordCursor
