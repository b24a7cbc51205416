import WireShadow.Proofs.Earlier
import WireShadow.Proofs.ElementTypes
import WireShadow.Proofs.RuleReports
import WireShadow.Proofs.UnitText

namespace WireShadow

namespace TypeNode

open Earlier

def nameOwner? (declared : List String) (earlier : List (Property × String)) (name : String) : Option String :=
  if name ∈ declared then some ("declared property '" ++ name ++ "'")
  else
    (earlier.find? fun member => member.2 = name).map fun member =>
      "the member generated for '" ++ member.1.name ++ "'"

def nameReport? (declared : List String) (earlier : List (Property × String)) (member : Property × String) :
    Option Diagnostic :=
  (nameOwner? declared earlier member.2).map fun owner =>
    Rule.duplicateMember.diagnostic member.1.location
      ("Member '" ++ member.2 ++ "' generated for property '" ++ member.1.name ++ "' collides with " ++ owner ++
        "; rename the property or mark it with an explicit tag")

def notedName? (declared : List String) (member : Property × String) : Option String :=
  if member.2 ∈ declared then none else some member.2

variable {declared : List String} {earlier : List (Property × String)}

theorem isSome_nameReport?_iff {member : Property × String} :
    (nameReport? declared earlier member).isSome ↔
      member.2 ∈ declared ∨ member.2 ∈ earlier.map (·.2) := by
  rw [nameReport?, Option.isSome_map, nameOwner?]
  split
  · next h => simp [h]
  · next h => simp [h]

theorem nameReport?_place {member : Property × String} {d : Diagnostic}
    (h : nameReport? declared earlier member = some d) :
    d.rule = .duplicateMember ∧ d.location = member.1.location := by
  obtain ⟨owner, -, rfl⟩ := Option.map_eq_some_iff.mp h
  exact ⟨rfl, rfl⟩

theorem nameOwner?_of_records {taken : List (String × String)}
    (h : Records (notedName? declared) (·.1.name) earlier taken) {name : String} (hname : name ∉ declared) :
    nameOwner? declared earlier name =
      (taken.lookup name).map fun owner => "the member generated for '" ++ owner ++ "'" := by
  have hnoted : (fun member : Property × String => decide (notedName? declared member = some name)) =
      fun member => decide (member.2 = name) := by
    funext member
    refine decide_eq_decide.mpr ?_
    rw [notedName?]
    split
    · next hmem => simpa using fun h : member.2 = name => hname (h ▸ hmem)
    · simp
  rw [nameOwner?, if_neg hname, h name, hnoted, Option.map_map]
  rfl

theorem clashes_eq_reports {taken : List (String × String)} (members : List (Property × String))
    (h : Records (notedName? declared) (·.1.name) earlier taken) :
    clashes declared taken members = reports (fun before => nameReport? declared (earlier ++ before)) members := by
  induction members generalizing earlier taken with
  | nil => rfl
  | cons member members ih =>
      obtain ⟨p, name⟩ := member
      rw [reports_append_cons, clashes]
      by_cases hname : name ∈ declared
      · have hnoted : notedName? declared (p, name) = none := if_pos hname
        rw [if_pos hname, nameReport?, nameOwner?, if_pos hname]
        exact congrArg (_ :: ·) (ih (h.skip hnoted))
      · have hnoted : notedName? declared (p, name) = some name := if_neg hname
        rw [if_neg hname, nameReport?, nameOwner?_of_records h hname]
        cases howner : taken.lookup name with
        | some owner => exact congrArg (_ :: ·) (ih (h.known hnoted howner))
        | none => exact ih (h.insert hnoted howner)

variable {g : Graph} {settings : Settings} {node : TypeNode}

theorem duplicateMembers_eq (g : Graph) (settings : Settings) (node : TypeNode) :
    node.duplicateMembers g settings =
      reports (nameReport? (node.decl.properties.map (·.name))) (node.memberNames g settings) := by
  have h : Records (notedName? (node.decl.properties.map (·.name))) (·.1.name) [] [] := .nil _ _
  exact clashes_eq_reports (node.memberNames g settings) h

/-- The second prefix goes on where the first ends, and so does the name of a property. -/
example :
    let decl := { Sample.order with
      properties := [Sample.property "Lines" Sample.numbers [], Sample.property "IsEmptyLines" Sample.number []] }
    let node := { Sample.orderNode with decl }
    (node.memberNames Sample.graph {}).map (·.2) = ["ProtoLines", "ProtoIsEmptyLines", "ProtoIsEmptyLines"] ∧
      (node.duplicateMembers Sample.graph {}).length = 1 := by decide +kernel

theorem nodup_memberNames
    (h : reports (nameReport? (node.decl.properties.map (·.name))) (node.memberNames g settings) = []) :
    ((node.memberNames g settings).map (·.2)).Nodup ∧
      ∀ name ∈ (node.memberNames g settings).map (·.2), name ∉ node.decl.properties.map (·.name) := by
  constructor
  · rw [← List.filterMap_eq_map]
    refine nodup_of_reports_eq_nil (fun earlier member name hname hmem => ?_) h
    cases hname
    rw [List.filterMap_eq_map] at hmem
    exact isSome_nameReport?_iff.mpr (.inr hmem)
  · intro name hname hdeclared
    obtain ⟨member, hmember, rfl⟩ := List.mem_map.mp hname
    obtain ⟨before, after, heq⟩ := List.append_of_mem hmember
    have hnone := reports_eq_nil_iff.mp h before member after heq
    have hsome : (nameReport? (node.decl.properties.map (·.name)) before member).isSome :=
      isSome_nameReport?_iff.mpr (.inl hdeclared)
    rw [hnone] at hsome
    cases hsome

/-- The names that are looked at are those of the members, each with the property that the member stands for. -/
theorem map_memberNames (g : Graph) (settings : Settings) (node : TypeNode) :
    (node.memberNames g settings).map (fun member => (member.1.name, member.2)) =
      (node.analysis g settings.vocabulary).members.map fun m => (m.property, m.name settings) := by
  have hshadows := Candidate.shadows_filterMap g settings.vocabulary (node.decl.customAttribute settings.vocabulary)
    node.decl.properties
  have huntagged : (node.analysis g settings.vocabulary).members.map (fun m => (m.property, m.name settings)) =
      ((node.analysis g settings.vocabulary).members.map (·.withTag 0)).map fun m =>
        (m.property, m.name settings) := by
    rw [List.map_map]
    rfl
  rw [huntagged, map_withTag_members, shadows, ← hshadows, Candidate.shadows, memberNames, List.map_flatMap,
    List.map_flatMap]
  simp only [List.map_map]
  rfl

theorem map_snd_memberNames (g : Graph) (settings : Settings) (node : TypeNode) :
    (node.memberNames g settings).map (·.2) =
      (node.analysis g settings.vocabulary).members.map (·.name settings) := by
  have h := congrArg (List.map Prod.snd) (map_memberNames g settings node)
  rwa [List.map_map, List.map_map] at h

theorem names_unique
    (h : reports (nameReport? (node.decl.properties.map (·.name))) (node.memberNames g settings) = []) :
    ((node.analysis g settings.vocabulary).members.map (·.name settings)).Nodup ∧
      ∀ m ∈ (node.analysis g settings.vocabulary).members, ∀ p ∈ node.decl.properties,
        m.name settings ≠ p.name := by
  obtain ⟨hnodup, hapart⟩ := nodup_memberNames h
  rw [map_snd_memberNames] at hnodup hapart
  exact ⟨hnodup, fun m hm p hp heq => hapart _ (List.mem_map_of_mem hm) (heq ▸ List.mem_map_of_mem hp)⟩

end TypeNode

def MemberText.Declares (text : MemberText) (name : String) : Prop :=
  ∃ type accessors, text.declaration = "private " ++ type ++ " " ++ name ++ " " ++ Member.braced accessors

namespace Member

variable {m : Member} {settings : Settings}

theorem exists_presence (test empty : String) : ∃ type accessors,
    m.presence settings test empty = "private " ++ type ++ " " ++ m.name settings ++ " " ++ braced accessors :=
  ⟨"bool", _, rfl⟩

theorem exists_declaration_of_ok {text : String} (h : m.declaration settings = .ok text) : ∃ type accessors,
    text = "private " ++ type ++ " " ++ m.name settings ++ " " ++ braced accessors := by
  cases hshape : m.shape with
  | plain =>
      simp only [declaration, hshape] at h
      cases h
      exact ⟨_, _, rfl⟩
  | concreteCollection =>
      simp only [declaration, hshape] at h
      cases h
      exact exists_presence _ _
  | abstractSequence | lazySequence =>
      simp only [declaration, hshape] at h
      cases helement : m.element m.element0 with
      | error failure => rw [helement] at h; cases h
      | ok element => rw [helement] at h; cases h; exact exists_presence _ _
  | abstractMap =>
      simp only [declaration, hshape] at h
      cases hkey : m.element m.element0 with
      | error failure => rw [hkey] at h; cases h
      | ok key =>
          cases hvalue : m.element m.element1 with
          | error failure => rw [hkey, hvalue] at h; cases h
          | ok value => rw [hkey, hvalue] at h; cases h; exact exists_presence _ _

theorem declares_of_emit {text : MemberText} (h : m.emit settings = .ok text) : text.Declares (m.name settings) :=
  exists_declaration_of_ok (emit_eq_ok_iff.mp h).1

end Member

theorem Settings.check_of_validate {settings : Settings} (h : settings.validate = .ok ())
    {check : Bool × SettingsDefect} (hcheck : check ∈ settings.checks) : check.1 = true := by
  rw [validate] at h
  split at h
  · next hchecks => simpa using List.find?_eq_none.mp hchecks check hcheck
  · cases h

theorem Settings.prefixes_ne_of_validate {settings : Settings} (h : settings.validate = .ok ()) :
    settings.shadowPrefix ≠ settings.presencePrefix := by
  have hcheck : (settings.shadowPrefix != settings.presencePrefix, SettingsDefect.equalPrefixes) ∈ settings.checks := by
    simp [checks]
  exact bne_iff_ne.mp (check_of_validate h hcheck)

theorem Shape.memberName_plain_ne {shape : Shape} (hshape : shape.isHelper = true) {settings : Settings}
    (h : settings.shadowPrefix ≠ settings.presencePrefix) (property : String) :
    Shape.plain.memberName property settings ≠ shape.memberName property settings := by
  rw [memberName, memberName, if_pos hshape]
  exact fun heq => h ((String.append_left_inj property).mp heq)

theorem Property.nodup_shadowNames {settings : Settings} (h : settings.shadowPrefix ≠ settings.presencePrefix)
    (g : Graph) (custom : Option String) (p : Property) :
    ((p.shadows g settings.vocabulary custom).map (·.name settings)).Nodup := by
  rw [shadows]
  split
  · next shape isInitOnly hverdict =>
      split
      · next hshape =>
          have hne := Shape.memberName_plain_ne hshape h p.name
          exact List.nodup_cons.mpr ⟨fun hmem => hne (List.mem_singleton.mp hmem), List.nodup_singleton _⟩
      · exact List.nodup_singleton _
  · exact .nil

namespace Graph

open Earlier TypeNode

/-- The names that are checked are those of the members that are written, and of these exactly those are reported
that a declared property or a member before has. -/
theorem member_names_unique_unless_reported {types : List DeclTree} {g : Graph} (hg : ofTypes types = .ok g)
    {settings : Settings} (hvalid : settings.validate = .ok ()) {node : TypeNode}
    (hnode : node ∈ g.roots settings.vocabulary)
    (hkind : ∀ e ∈ node :: g.enclosing node, e.decl.kind ≠ .enum) :
    ∃ d result texts, node.DescribedAs g settings.vocabulary d ∧ d.emit settings = .ok result ∧
      result.outputKey = d.outputKey settings ∧ result.text = (d.write settings texts).text ∧
      result.text = CSharp.Code.textAll 0 (d.code settings texts) ∧
      List.Forall₂ (fun m text => m.emit settings = .ok text ∧ text.Declares (m.name settings)) d.members texts ∧
      (node.memberNames g settings).map (fun member => (member.1.name, member.2)) =
        d.members.map (fun m => (m.property, m.name settings)) ∧
      ((g.diagnostics settings).filter (·.rule == .duplicateMember)).Perm
        ((g.roots settings.vocabulary).flatMap fun node =>
          reports (nameReport? (node.decl.properties.map (·.name))) (node.memberNames g settings)) ∧
      (∀ declared earlier member,
        ((nameReport? declared earlier member).isSome ↔ member.2 ∈ declared ∨ member.2 ∈ earlier.map (·.2)) ∧
        ∀ report, nameReport? declared earlier member = some report → report.location = member.1.location) ∧
      (reports (nameReport? (node.decl.properties.map (·.name))) (node.memberNames g settings) = [] →
        (d.members.map (·.name settings)).Nodup ∧
          ∀ m ∈ d.members, ∀ p ∈ node.decl.properties, m.name settings ≠ p.name) ∧
      ∀ p ∈ node.decl.properties, ((p.shadows g settings.vocabulary
        (node.decl.customAttribute settings.vocabulary)).map (·.name settings)).Nodup := by
  have hroot := (List.mem_filter.mp hnode).2
  obtain ⟨heads, hd⟩ := exists_describedAs hroot hkind
  obtain ⟨result, hresult⟩ := TypeDescriptor.exists_emit
    (d := (node.analysis g settings.vocabulary).descriptor heads) (fun _ hm => not_lacksElement_of_mem_members hm)
    settings
  obtain ⟨texts, htexts, rfl⟩ := (TypeDescriptor.emit_eq_ok_iff _ settings).mp hresult
  have hdeclares := htexts.imp fun _ _ htext => And.intro htext (Member.declares_of_emit htext)
  have hnames := map_memberNames g settings node
  refine ⟨_, _, texts, hd, hresult, rfl, ?_, rfl, hdeclares, hnames, ?_, ?_, ?_, ?_⟩
  · rw [TypeDescriptor.write_eq]
  · simp only [← duplicateMembers_eq]
    rw [roots, ← flatMap_ite]
    exact perm_share hg .duplicateMember
  · exact fun _ _ _ => ⟨isSome_nameReport?_iff, fun _ hreport => (nameReport?_place hreport).2⟩
  · exact names_unique
  · exact fun p _ => p.nodup_shadowNames (Settings.prefixes_ne_of_validate hvalid) g _

theorem member_names_unique_unless_reported_order :
    ofTypes Sample.types = .ok Sample.graph ∧ ({} : Settings).validate = .ok () ∧
      Sample.orderNode ∈ Sample.graph.roots {} ∧
      (∀ e ∈ Sample.orderNode :: Sample.graph.enclosing Sample.orderNode, e.decl.kind ≠ .enum) ∧
      ∃ d result, Sample.orderNode.DescribedAs Sample.graph {} d ∧ d.emit {} = .ok result ∧
        d.members.map (·.name {}) = ["ProtoId", "ProtoLines", "ProtoIsEmptyLines", "ProtoTotal"] ∧
        (d.members.map (·.name {})).Nodup ∧
        ∀ m ∈ d.members, ∀ p ∈ Sample.order.properties, m.name {} ≠ p.name := by
  have hvalid : ({} : Settings).validate = .ok () := by rfl
  obtain ⟨d, result, _, hd, hresult, -, -, -, -, hnames, -, -, hunique, -⟩ := member_names_unique_unless_reported
    Sample.ofTypes_types hvalid Sample.orderNode_mem_roots Sample.kind_ne_enum
  obtain ⟨hnodup, hne⟩ := hunique (by decide +kernel)
  refine ⟨Sample.ofTypes_types, hvalid, Sample.orderNode_mem_roots, Sample.kind_ne_enum, d, result, hd, hresult, ?_,
    hnodup, hne⟩
  rw [hd.members_eq Sample.isRoot_order Sample.kind_ne_enum, ← map_snd_memberNames]
  decide +kernel

end Graph

end WireShadow
