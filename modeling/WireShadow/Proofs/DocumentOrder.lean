import WireShadow.Proofs.Representation

namespace WireShadow.Graph

variable {g : Graph}

namespace Walk

variable {w w' w'' : Walk} {visits visits' : List Visit}

theorem Leads.eq_nil_of_next_eq_none (h : Leads g w visits w') (hover : w.next g = none) : visits = [] ∧ w' = w := by
  cases h with
  | stay => exact ⟨rfl, rfl⟩
  | visit hnext => cases hover.symm.trans hnext

theorem Leads.exists_rest (h : Leads g w visits w') (h' : Leads g w visits' w'') (hover : w''.next g = none) :
    ∃ rest, visits' = visits ++ rest ∧ Leads g w' rest w'' := by
  induction h generalizing visits' with
  | stay => exact ⟨visits', rfl, h'⟩
  | visit hnext _ ih =>
      cases h' with
      | stay => cases hover.symm.trans hnext
      | visit hnext' hrest =>
          cases hnext.symm.trans hnext'
          obtain ⟨rest, rfl, hlater⟩ := ih hrest
          exact ⟨rest, rfl, hlater⟩

theorem run_of_next_eq_none (h : w.next g = none) (steps : Nat) : run g steps w = [] := by
  cases steps with
  | zero => rfl
  | succ steps => simp only [run, h]

end Walk

def Visit.site (visit : Visit) : Site :=
  { decl := visit.node.decl, outer := (visit.ancestors.map (·.decl)).reverse }

theorem site_visit (g : Graph) (node : TypeNode) : (g.visit node).site = g.site node := by
  rw [Visit.site, visit, site, List.map_reverse, List.reverse_reverse]

end WireShadow.Graph

namespace WireShadow

namespace Sample

def nest (name : String) (nested : List DeclTree) : DeclTree := .node { name, namespaceName := "Test" } nested

def forest : List DeclTree :=
  [nest "Outer" [nest "Middle" [nest "Inner" []], nest "Sibling" []], nest "Other" []]

end Sample

namespace Graph

open Walk

variable {types : List DeclTree} {g : Graph}

/-- A walk goes on as long as there are types that it has not come by, and is over when there are none. It comes by each
of them once, in the order in which the document declares them, each before those inside it and with those around it. -/
theorem walk_is_preorder (hg : ofTypes types = .ok g) :
    (∃ path, Leads g (start g) g.walk { pending := [], path }) ∧
    (∀ visits w, Leads g (start g) visits w → visits <+: g.walk ∧ (w.next g = none ↔ visits = g.walk)) ∧
    (∀ steps, g.size ≤ steps → run g steps (start g) = g.walk) ∧
    g.walk.map (·.node) = g.nodes ∧
    g.walk.map (·.node.id) = List.range g.size ∧
    (∀ visit ∈ g.walk, visit.ancestors = (g.enclosing visit.node).reverse) ∧
    g.walk.map Visit.site = DeclTree.sitesAll [] types := by
  have hwalk := walk_eq hg
  obtain ⟨path, hleads⟩ := exists_leads hg
  rw [← hwalk] at hleads
  have hlength : g.walk.length = g.size := by rw [hwalk, List.length_map, size]
  have hrepresents : g.Represents types := eq_layOut hg ▸ represents_layOut types
  refine ⟨⟨path, hleads⟩, fun visits w h => ?_, fun steps hsteps => ?_, ?_, ?_, ?_, ?_⟩
  · obtain ⟨rest, hrest, hlater⟩ := h.exists_rest hleads rfl
    refine ⟨⟨rest, hrest.symm⟩, fun hover => ?_, fun hall => ?_⟩
    · rw [hrest, (hlater.eq_nil_of_next_eq_none hover).1, List.append_nil]
    · have hnil : rest = [] := List.self_eq_append_right.mp (hall.trans hrest)
      subst hnil
      cases hlater
      rfl
  · obtain ⟨more, rfl⟩ := Nat.exists_eq_add_of_le hsteps
    rw [← hlength, hleads.run_eq more, run_of_next_eq_none rfl, List.append_nil]
  · rw [hwalk, List.map_map]
    exact List.map_id g.nodes
  · rw [hwalk, List.map_map]
    exact hrepresents.ids
  · rw [hwalk]
    intro visit hvisit
    obtain ⟨node, -, rfl⟩ := List.mem_map.mp hvisit
    rfl
  · rw [hwalk, List.map_map, ← hrepresents.sites]
    exact List.map_congr_left fun node _ => site_visit g node

theorem walk_is_preorder_forest :
    ofTypes Sample.forest = .ok (layOut Sample.forest) ∧
      (layOut Sample.forest).walk.map (fun visit => (visit.node.decl.name, visit.ancestors.map (·.decl.name))) =
        [("Outer", []), ("Middle", ["Outer"]), ("Inner", ["Outer", "Middle"]), ("Sibling", ["Outer"]),
          ("Other", [])] := by
  have hg : ofTypes Sample.forest = .ok (layOut Sample.forest) := rfl
  obtain ⟨-, -, -, -, -, -, hsites⟩ := walk_is_preorder hg
  have hnames := congrArg (List.map fun s : Site => (s.decl.name, (s.outer.map (·.name)).reverse)) hsites
  simp only [List.map_map, Function.comp_def, Visit.site, List.map_reverse, List.reverse_reverse] at hnames
  exact ⟨hg, hnames.trans (by decide +kernel)⟩

end Graph

end WireShadow
