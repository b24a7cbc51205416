namespace WireShadow

structure TagSet where
  tags : List Nat := []
  ascending : tags.Pairwise (· < ·) := by exact .nil
deriving DecidableEq

namespace TagSet

instance : Inhabited TagSet := ⟨{}⟩

def place (tag : Nat) : List Nat → List Nat
  | [] => [tag]
  | t :: ts => if tag < t then tag :: t :: ts else if tag = t then t :: ts else t :: place tag ts

theorem mem_place {tag x : Nat} {ts : List Nat} : x ∈ place tag ts ↔ x = tag ∨ x ∈ ts := by
  fun_induction place tag ts <;> grind

theorem place_ascending (tag : Nat) (ts : List Nat) (h : ts.Pairwise (· < ·)) :
    (place tag ts).Pairwise (· < ·) := by
  fun_induction place tag ts <;> grind [mem_place, List.pairwise_cons]

def insert (s : TagSet) (tag : Nat) : TagSet := ⟨place tag s.tags, place_ascending tag s.tags s.ascending⟩

def ofList (tags : List Nat) : TagSet := tags.foldl insert {}

instance : Membership Nat TagSet := ⟨fun s tag => tag ∈ s.tags⟩

instance (tag : Nat) (s : TagSet) : Decidable (tag ∈ s) := inferInstanceAs (Decidable (tag ∈ s.tags))

@[simp] theorem mem_insert {s : TagSet} {tag x : Nat} : x ∈ s.insert tag ↔ x = tag ∨ x ∈ s :=
  mem_place

/-- The first tag from `tag` on that is not among some ascending ones. -/
def firstFree (tag : Nat) : List Nat → Nat
  | [] => tag
  | t :: ts => if t < tag then firstFree tag ts else if t = tag then firstFree (tag + 1) ts else tag

end TagSet

structure TagAllocator where
  claimed : TagSet
  next : Nat := 1
deriving Inhabited

namespace TagAllocator

def allocate (a : TagAllocator) : Nat × TagAllocator :=
  let tag := TagSet.firstFree a.next a.claimed.tags
  (tag, { a with next := tag + 1 })

def allocateMany (a : TagAllocator) : Nat → List Nat × TagAllocator
  | 0 => ([], a)
  | n + 1 =>
    let (tag, a) := a.allocate
    let (tags, a) := a.allocateMany n
    (tag :: tags, a)

end TagAllocator

def assignTags (claimed : TagSet) (count : Nat) : List Nat :=
  ((TagAllocator.mk claimed 1).allocateMany count).1

end WireShadow
