import WireShadow.Marker
import WireShadow.Proofs.Lists

namespace WireShadow

variable {v : Vocabulary}

theorem Vocabulary.isManual_member (v : Vocabulary) : v.isManual v.member = true := by
  simp [isManual, isMember, TypeName.sameAttribute]

theorem validTag?_ofNat {t : Nat} (hpos : 1 ≤ t) (hlt : t < UInt32.size) :
    validTag? (Int64.ofNat t) = some t := by
  have hsize : UInt32.size < 2 ^ 63 := by decide
  rw [validTag?, Int64.toInt_ofNat_of_lt (Nat.lt_trans hlt hsize), Int.toNat_natCast,
    if_pos ⟨by omega, hlt⟩]

theorem TagMarker.claim_claim (marker : TagMarker) (tag tag' : Option Nat) :
    (marker.claim tag).claim tag' = marker.claim (tag.or tag') := by
  cases marker with
  | untagged => cases tag <;> rfl
  | explicit claimed => cases claimed <;> cases tag <;> rfl

theorem foldl_claim (marker : TagMarker) (attributes : List Attribute) :
    attributes.foldl (fun marker a => if v.isManual a.name then marker.claim a.tag? else marker) marker =
      match attributes.filter fun a => v.isManual a.name with
      | [] => marker
      | markers => marker.claim (markers.findSome? Attribute.tag?) := by
  induction attributes generalizing marker with
  | nil => rfl
  | cons a attributes ih =>
      have hfirst (markers : List Attribute) :
          (a :: markers).findSome? Attribute.tag? = a.tag?.or (markers.findSome? Attribute.tag?) := by
        rw [List.findSome?_cons]
        cases a.tag? <;> rfl
      rw [List.foldl_cons, ih, List.filter_cons]
      cases v.isManual a.name with
      | false => rfl
      | true =>
          simp only [if_true, hfirst, ← TagMarker.claim_claim]
          cases attributes.filter fun a => v.isManual a.name with
          | nil => rw [List.findSome?_nil, TagMarker.claim_claim, Option.or_none]
          | cons b markers => rfl

theorem tagMarker_eq (v : Vocabulary) (attributes : List Attribute) :
    tagMarker v attributes =
      match attributes.filter fun a => v.isManual a.name with
      | [] => .untagged
      | markers => .explicit (markers.findSome? Attribute.tag?) :=
  foldl_claim .untagged attributes

theorem tagMarker_eq_untagged_iff {attributes : List Attribute} :
    tagMarker v attributes = .untagged ↔ (attributes.filter fun a => v.isManual a.name) = [] := by
  rw [tagMarker_eq]
  split
  · next h => simp [h]
  · next h => simpa using h

theorem tagMarker_insert {before after : List Attribute} {a : Attribute}
    (h : tagMarker v (before ++ after) = .untagged) (ha : v.isManual a.name) :
    tagMarker v (before ++ a :: after) = .explicit a.tag? := by
  rw [tagMarker_eq_untagged_iff, List.filter_append, List.append_eq_nil_iff] at h
  have hfilter : (before ++ a :: after).filter (fun a => v.isManual a.name) = [a] := by
    have hcons : (a :: after).filter (fun a => v.isManual a.name) = a :: after.filter fun a => v.isManual a.name :=
      List.filter_cons_of_pos ha
    rw [List.filter_append, hcons, h.1, h.2]
    rfl
  simp only [tagMarker_eq, hfilter, List.findSome?_singleton]

namespace Property

def freeze (v : Vocabulary) (p : Property) (position : Nat) (named : NamedArguments) (tag : Nat) : Property :=
  { p with
    attributes := p.attributes.take position ++
      { name := v.member, arguments := [.int (Int64.ofNat tag)], named } :: p.attributes.drop position }

theorem marker_freeze {p : Property} (h : p.marker v = .untagged) (position : Nat) (named : NamedArguments)
    {t : Nat} (hpos : 1 ≤ t) (hlt : t < UInt32.size) :
    (p.freeze v position named t).marker v = .explicit (some t) := by
  have hself : tagMarker v (p.attributes.take position ++ p.attributes.drop position) = .untagged := by
    rw [List.take_append_drop]
    exact h
  let a : Attribute := { name := v.member, arguments := [.int (Int64.ofNat t)], named }
  have hmarker := tagMarker_insert (a := a) hself v.isManual_member
  have htag : a.tag? = some t := by
    simp [a, Attribute.tag?, validTag?_ofNat hpos hlt]
  rw [htag] at hmarker
  exact hmarker

end Property

def IsTag (n : Int64) : Prop := 1 ≤ n.toInt ∧ n.toInt ≤ 4294967295

instance (n : Int64) : Decidable (IsTag n) := inferInstanceAs (Decidable (1 ≤ n.toInt ∧ n.toInt ≤ 4294967295))

theorem validTag?_eq_some_iff {n : Int64} {tag : Nat} : validTag? n = some tag ↔ IsTag n ∧ n.toInt = tag := by
  have hsize : UInt32.size = 4294967296 := rfl
  rw [validTag?, IsTag]
  split <;> simp only [Option.some.injEq, reduceCtorEq, false_iff] <;> omega

theorem validTag?_eq_none_iff {n : Int64} : validTag? n = none ↔ ¬IsTag n := by
  have hsize : UInt32.size = 4294967296 := rfl
  rw [validTag?, IsTag]
  split <;> simp only [reduceCtorEq, true_iff, false_iff] <;> omega

namespace Attribute

/-- The tag is the first integer among the arguments that is a tag at all. -/
def Claims (a : Attribute) (tag : Nat) : Prop :=
  ∃ before n after, a.arguments = before ++ .int n :: after ∧ (∀ m, .int m ∈ before → ¬IsTag m) ∧ IsTag n ∧
    n.toInt = tag

def ClaimsFirst (a : Attribute) (tag : Nat) : Prop := ∃ n, a.firstInt = some n ∧ IsTag n ∧ n.toInt = tag

variable {a : Attribute} {tag : Nat}

theorem tag?_eq_some_iff : a.tag? = some tag ↔ a.Claims tag := by
  rw [tag?, List.findSome?_eq_some_iff]
  constructor
  · rintro ⟨before, value, after, hsplit, hvalue, hbefore⟩
    cases value with
    | int n =>
        obtain ⟨hn, htag⟩ := validTag?_eq_some_iff.mp hvalue
        exact ⟨before, n, after, hsplit, fun m hm => validTag?_eq_none_iff.mp (hbefore _ hm), hn, htag⟩
    | string | type | bool | null => cases hvalue
  · rintro ⟨before, n, after, hsplit, hbefore, hn, htag⟩
    refine ⟨before, .int n, after, hsplit, validTag?_eq_some_iff.mpr ⟨hn, htag⟩, fun value hvalue => ?_⟩
    cases value with
    | int m => exact validTag?_eq_none_iff.mpr (hbefore m hvalue)
    | string | type | bool | null => rfl

theorem tag?_eq_none_iff : a.tag? = none ↔ ∀ tag, ¬a.Claims tag := by
  simp only [← tag?_eq_some_iff, Option.eq_none_iff_forall_ne_some, ne_eq]

theorem claims_of_claimsFirst (h : a.ClaimsFirst tag) : a.Claims tag := by
  obtain ⟨n, hfirst, hn, htag⟩ := h
  obtain ⟨before, value, after, hsplit, hvalue, hbefore⟩ := List.findSome?_eq_some_iff.mp hfirst
  cases value with
  | int m =>
      obtain rfl : m = n := Option.some.inj hvalue
      refine ⟨before, m, after, hsplit, fun m hm => ?_, hn, htag⟩
      cases hbefore _ hm
  | string | type | bool | null => cases hvalue

theorem exists_firstInt_of_claims (h : a.Claims tag) : ∃ n, a.firstInt = some n := by
  obtain ⟨before, n, after, hsplit, -⟩ := h
  rw [← Option.isSome_iff_exists, firstInt, List.findSome?_isSome_iff]
  exact ⟨.int n, by simp [hsplit], rfl⟩

theorem Claims.unique {tag' : Nat} (h : a.Claims tag) (h' : a.Claims tag') : tag = tag' := by
  rw [← tag?_eq_some_iff] at h h'
  exact Option.some.inj (h.symm.trans h')

/-- No integer that is no tag stands in front of the one that claims the tag. -/
def ReadsFirst (a : Attribute) : Prop := ∀ n, a.firstInt = some n → ¬IsTag n → ∀ tag, ¬a.Claims tag

theorem ReadsFirst.claims_iff (h : a.ReadsFirst) : a.Claims tag ↔ a.ClaimsFirst tag := by
  refine ⟨fun htag => ?_, claims_of_claimsFirst⟩
  obtain ⟨n, hfirst⟩ := exists_firstInt_of_claims htag
  have hn : IsTag n := Decidable.byContradiction fun hn => h n hfirst hn tag htag
  have hself : a.ClaimsFirst n.toInt.toNat := ⟨n, hfirst, hn, by have := hn.1; omega⟩
  rw [htag.unique (claims_of_claimsFirst hself)]
  exact hself

theorem readsFirst_iff : a.ReadsFirst ↔ ∀ tag, a.Claims tag ↔ a.ClaimsFirst tag := by
  refine ⟨fun h tag => h.claims_iff, fun h n hfirst hn tag htag => ?_⟩
  obtain ⟨n', hfirst', hn', -⟩ := (h tag).mp htag
  rw [hfirst] at hfirst'
  exact hn (Option.some.inj hfirst' ▸ hn')

end Attribute

/-- The tag is that of the first marker that has one. -/
def IsFirstTag (v : Vocabulary) (claims : Attribute → Nat → Prop) (attributes : List Attribute) (tag : Nat) : Prop :=
  ∃ before a after, attributes = before ++ a :: after ∧ v.isManual a.name ∧ claims a tag ∧
    ∀ b ∈ before, v.isManual b.name → ∀ t, ¬claims b t

variable {attributes : List Attribute} {tag : Nat}

theorem isFirstTag_congr {claims claims' : Attribute → Nat → Prop}
    (h : ∀ a ∈ attributes, v.isManual a.name → ∀ t, claims a t ↔ claims' a t) :
    IsFirstTag v claims attributes tag ↔ IsFirstTag v claims' attributes tag := by
  refine exists₃_congr fun before a after => and_congr_right fun hsplit => and_congr_right fun ha => ?_
  subst hsplit
  refine and_congr (h a (by simp) ha tag) (forall₃_congr fun b hb hmanual => forall_congr' fun t => not_congr ?_)
  exact h b (by simp [hb]) hmanual t

theorem findSome?_markers_eq_some_iff :
    (attributes.filter fun a => v.isManual a.name).findSome? Attribute.tag? = some tag ↔
      IsFirstTag v Attribute.Claims attributes tag := by
  rw [findSome?_filter, List.findSome?_eq_some_iff]
  simp only [Option.ite_none_right_eq_some, Attribute.tag?_eq_some_iff, ite_eq_right_iff, Attribute.tag?_eq_none_iff,
    IsFirstTag, and_assoc]

theorem tagMarker_eq_explicit_iff {tag? : Option Nat} : tagMarker v attributes = .explicit tag? ↔
    (∃ a ∈ attributes, v.isManual a.name) ∧
      (attributes.filter fun a => v.isManual a.name).findSome? Attribute.tag? = tag? := by
  have hsome : (∃ a ∈ attributes, v.isManual a.name) ↔ (attributes.filter fun a => v.isManual a.name) ≠ [] := by
    simp
  rw [hsome, tagMarker_eq]
  split
  · next h => simp [h]
  · next h => rw [and_iff_right h, TagMarker.explicit.injEq]

theorem tagMarker_eq_explicit_some_iff :
    tagMarker v attributes = .explicit (some tag) ↔ IsFirstTag v Attribute.Claims attributes tag := by
  rw [tagMarker_eq_explicit_iff, findSome?_markers_eq_some_iff, and_iff_right_iff_imp]
  rintro ⟨before, a, after, rfl, ha, -⟩
  exact ⟨a, by simp, ha⟩

theorem tagMarker_eq_explicit_none_iff : tagMarker v attributes = .explicit none ↔
    (∃ a ∈ attributes, v.isManual a.name) ∧ ∀ a ∈ attributes, v.isManual a.name → ∀ tag, ¬a.Claims tag := by
  rw [tagMarker_eq_explicit_iff, List.findSome?_eq_none_iff]
  simp only [List.mem_filter, and_imp, Attribute.tag?_eq_none_iff]

/-- What the markers among the attributes say. A marker passes over the integers that are no tags, and reads
as if its first integer decided just where it has nothing to pass over. -/
theorem tagMarker_takes_first_tag (v : Vocabulary) (attributes : List Attribute) :
    (tagMarker v attributes = .untagged ↔
      ∀ a ∈ attributes, v.isMember a.name = false ∧ v.isIgnore a.name = false) ∧
    (∀ tag, tagMarker v attributes = .explicit (some tag) ↔ IsFirstTag v Attribute.Claims attributes tag) ∧
    (tagMarker v attributes = .explicit none ↔ (∃ a ∈ attributes, v.isManual a.name) ∧
      ∀ a ∈ attributes, v.isManual a.name → ∀ tag, ¬a.Claims tag) ∧
    (∀ a : Attribute, a.ReadsFirst ↔ ∀ tag, a.Claims tag ↔ a.ClaimsFirst tag) ∧
    ((∀ a ∈ attributes, v.isManual a.name → a.ReadsFirst) →
      ∀ tag, tagMarker v attributes = .explicit (some tag) ↔ IsFirstTag v Attribute.ClaimsFirst attributes tag) := by
  refine ⟨?_, fun tag => tagMarker_eq_explicit_some_iff, tagMarker_eq_explicit_none_iff,
    fun a => Attribute.readsFirst_iff, fun h tag => ?_⟩
  · rw [tagMarker_eq_untagged_iff, List.filter_eq_nil_iff]
    simp only [Vocabulary.isManual, Bool.or_eq_true, not_or, Bool.not_eq_true]
  · rw [tagMarker_eq_explicit_some_iff]
    exact isFirstTag_congr fun a ha hmanual t => (h a ha hmanual).claims_iff

namespace Sample

def twoIntegers : Attribute := { name := "ProtoBuf.ProtoMember", arguments := [.int 0, .int 7] }

end Sample

theorem tagMarker_passes_over_integer :
    Sample.twoIntegers.firstInt = some 0 ∧ (∀ tag, ¬Sample.twoIntegers.ClaimsFirst tag) ∧
      tagMarker {} [Sample.twoIntegers] = .explicit (some 7) := by
  refine ⟨rfl, ?_, by decide +kernel⟩
  rintro tag ⟨n, hfirst, hn, -⟩
  obtain rfl : 0 = n := Option.some.inj hfirst
  exact absurd hn (by decide)

end WireShadow
