import Mathlib.Data.List.Sort
import WireShadow.Diagnostic.Analysis

namespace WireShadow

namespace Location

theorem compare_eq_compareLex : Location.compare =
    compareLex (compareOn (·.file)) (compareLex (compareOn (·.line.toNat)) (compareOn (·.column.toNat))) := rfl

instance : Std.TransCmp Location.compare := by
  rw [compare_eq_compareLex]
  infer_instance

theorem eq_of_compare_eq {x y : Location} (h : x.compare y = .eq) : x = y := by
  rw [compare_eq_compareLex] at h
  obtain ⟨hfile, hrest⟩ := compareLex_eq_eq.mp h
  obtain ⟨hline, hcolumn⟩ := compareLex_eq_eq.mp hrest
  cases x
  cases y
  rw [Location.mk.injEq]
  exact ⟨Std.LawfulEqCmp.eq_of_compare hfile, UInt32.toNat_inj.mp (Std.LawfulEqCmp.eq_of_compare hline),
    UInt32.toNat_inj.mp (Std.LawfulEqCmp.eq_of_compare hcolumn)⟩

end Location

theorem Rule.eq_of_number_eq {r r' : Rule} (h : r.number = r'.number) : r = r' := by
  cases r <;> cases r' <;> first | rfl | cases h

namespace Diagnostic

def place (d : Diagnostic) : Location × Rule := (d.location, d.rule)

def comparePlaces (p q : Location × Rule) : Ordering := (p.1.compare q.1).then (compare p.2.number q.2.number)

instance : Std.TransCmp comparePlaces :=
  have : Std.TransCmp fun p q : Location × Rule => p.1.compare q.1 :=
    { eq_swap := Std.OrientedCmp.eq_swap, isLE_trans := Std.TransCmp.isLE_trans }
  inferInstanceAs <| Std.TransCmp <|
    compareLex (fun p q : Location × Rule => p.1.compare q.1) (compareOn fun p => p.2.number)

theorem eq_of_comparePlaces_eq {p q : Location × Rule} (h : comparePlaces p q = .eq) : p = q := by
  obtain ⟨hlocation, hrule⟩ := Ordering.then_eq_eq.mp h
  exact Prod.ext (Location.eq_of_compare_eq hlocation) (Rule.eq_of_number_eq (Std.LawfulEqCmp.eq_of_compare hrule))

variable {ds ds' : List Diagnostic}

theorem le_iff {x y : Diagnostic} : x.le y = true ↔ (comparePlaces x.place y.place).isLE = true := Iff.rfl

theorem le_total (x y : Diagnostic) : (x.le y || y.le x) = true := by
  have hswap : comparePlaces y.place x.place = (comparePlaces x.place y.place).swap := Std.OrientedCmp.eq_swap
  rw [Bool.or_eq_true, le_iff, le_iff, hswap]
  cases comparePlaces x.place y.place <;> decide

theorem le_trans (x y z : Diagnostic) (hxy : x.le y = true) (hyz : y.le z = true) : x.le z = true :=
  le_iff.mpr (Std.TransCmp.isLE_trans (le_iff.mp hxy) (le_iff.mp hyz))

theorem pairwise_sort (ds : List Diagnostic) : (sort ds).Pairwise fun x y => x.le y = true :=
  List.pairwise_mergeSort le_trans le_total ds

theorem sort_perm (ds : List Diagnostic) : (sort ds).Perm ds := List.mergeSort_perm ds le

theorem map_place_eq_of_perm (h : ds.Perm ds') (hds : ds.Pairwise fun x y => x.le y = true)
    (hds' : ds'.Pairwise fun x y => x.le y = true) : ds.map place = ds'.map place := by
  have hplaces {ds : List Diagnostic} (hds : ds.Pairwise fun x y => x.le y = true) :
      (ds.map place).Pairwise fun p q => (comparePlaces p q).isLE = true := List.pairwise_map.mpr hds
  refine List.Perm.eq_of_pairwise (fun p q _ _ hpq hqp => ?_) (hplaces hds) (hplaces hds') (h.map place)
  exact eq_of_comparePlaces_eq (Std.OrientedCmp.isLE_antisymm hpq hqp)

end Diagnostic

end WireShadow
