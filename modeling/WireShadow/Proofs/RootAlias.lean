import WireShadow.Proofs.Lists
import WireShadow.Proofs.UnrootedResults

namespace WireShadow

namespace AttributeValue

/-- Of a text, the name before the first comma is respelled. -/
inductive Respelled : AttributeValue → AttributeValue → Prop
  | same (value : AttributeValue) : Respelled value value
  | type {name name' : String} : TypeName.Respelled name name' → Respelled (.type name) (.type name')
  | string {name name' rest : String} : TypeName.Respelled name name' → ',' ∉ name.toList →
      (∀ c ∈ rest.toList.head?, c = ',') → Respelled (.string (name ++ rest)) (.string (name' ++ rest))

theorem Respelled.unroot_eq {value value' : AttributeValue} (h : Respelled value value') :
    value'.unroot = value.unroot := by
  cases h with
  | same => rfl
  | type hname => exact congrArg AttributeValue.type hname.unroot_eq
  | @string name name' rest hname hcomma hrest =>
      have hcomma' : ',' ∉ name'.toList := by
        cases hname with
        | same => exact hcomma
        | rooted =>
            rw [TypeName.toList_rooted, List.mem_append, not_or]
            exact ⟨by decide, hcomma⟩
      rw [unroot_append hcomma' hrest, unroot_append hcomma hrest, hname.unroot_eq]

end AttributeValue

namespace Attribute

structure Respelled (a a' : Attribute) : Prop where
  name : TypeName.Respelled a.name a'.name
  arguments : List.Forall₂ AttributeValue.Respelled a.arguments a'.arguments
  named : List.Forall₂ (fun e e' => e.1 = e'.1 ∧ AttributeValue.Respelled e.2 e'.2) a.named.entries a'.named.entries

theorem Respelled.unroot_eq {a a' : Attribute} (h : Respelled a a') : a'.unroot = a.unroot := by
  obtain ⟨name, arguments, ⟨entries, ascending⟩⟩ := a
  obtain ⟨name', arguments', ⟨entries', ascending'⟩⟩ := a'
  have hname : TypeName.unroot name' = TypeName.unroot name := h.name.unroot_eq
  have harguments : arguments'.map AttributeValue.unroot = arguments.map AttributeValue.unroot :=
    map_eq_of_forall₂ (fun _ _ hvalue => hvalue.unroot_eq) h.arguments
  have hentries : entries'.map (fun e => (e.1, e.2.unroot)) = entries.map fun e => (e.1, e.2.unroot) :=
    map_eq_of_forall₂ (fun _ _ he => by rw [he.1, he.2.unroot_eq]) h.named
  simp only [unroot, NamedArguments.unroot, hname, harguments, hentries]

end Attribute

inductive TypeRef.Respelled : TypeRef → TypeRef → Prop
  | mk {name name' : String} {kind : TypeRefKind} {arguments arguments' : List TypeRef} {nullable : Bool}
      {interfaces interfaces' : List String} : TypeName.Respelled name name' →
      List.Forall₂ Respelled arguments arguments' → List.Forall₂ TypeName.Respelled interfaces interfaces' →
      Respelled { name, kind, arguments, nullable, interfaces }
        { name := name', kind, arguments := arguments', nullable, interfaces := interfaces' }

namespace TypeRef

mutual

theorem Respelled.unroot_eq : {t t' : TypeRef} → Respelled t t' → t'.unroot = t.unroot
  | ⟨_, _, arguments, _, interfaces⟩, _, .mk hname harguments hinterfaces => by
      have hcontracts := map_eq_of_forall₂ (fun _ _ h => h.unroot_eq) hinterfaces
      rw [unroot, unroot, hname.unroot_eq, unrootAll_eq harguments, hcontracts]

theorem unrootAll_eq : {types types' : List TypeRef} → List.Forall₂ Respelled types types' →
    unrootAll types' = unrootAll types
  | [], _, .nil => rfl
  | _ :: _, _, .cons htype htypes => by rw [unrootAll, unrootAll, htype.unroot_eq, unrootAll_eq htypes]

end

end TypeRef

inductive Property.Respelled : Property → Property → Prop
  | mk {p : Property} {type : TypeRef} {attributes : List Attribute} : TypeRef.Respelled p.type type →
      List.Forall₂ Attribute.Respelled p.attributes attributes → Respelled p { p with type, attributes }

theorem Property.Respelled.unroot_eq {p p' : Property} (h : Respelled p p') : p'.unroot = p.unroot := by
  obtain ⟨htype, hattributes⟩ := h
  have hmarkers := map_eq_of_forall₂ (fun _ _ h => Attribute.Respelled.unroot_eq h) hattributes
  simp only [unroot, htype.unroot_eq, hmarkers]

inductive TypeDecl.Respelled : TypeDecl → TypeDecl → Prop
  | mk {d : TypeDecl} {namespaceName : String} {baseType : Option String} {attributes : List Attribute}
      {properties : List Property} : TypeName.Respelled d.namespaceName namespaceName →
      Option.Rel TypeName.Respelled d.baseType baseType →
      List.Forall₂ Attribute.Respelled d.attributes attributes →
      List.Forall₂ Property.Respelled d.properties properties →
      Respelled d { d with namespaceName, baseType, attributes, properties }

theorem TypeDecl.Respelled.unroot_eq {d d' : TypeDecl} (h : Respelled d d') : d'.unroot = d.unroot := by
  obtain ⟨hnamespace, hbase, hattributes, hproperties⟩ := h
  rename_i namespaceName baseType attributes properties
  have hbaseType : baseType.map TypeName.unroot = d.baseType.map TypeName.unroot :=
    map_eq_of_rel (fun _ _ h => h.unroot_eq) hbase
  have hmarkers := map_eq_of_forall₂ (fun _ _ h => Attribute.Respelled.unroot_eq h) hattributes
  have hmembers := map_eq_of_forall₂ (fun _ _ h => Property.Respelled.unroot_eq h) hproperties
  simp only [unroot, hnamespace.unroot_eq, hbaseType, hmarkers, hmembers]

inductive DeclTree.Respelled : DeclTree → DeclTree → Prop
  | node {decl decl' : TypeDecl} {nested nested' : List DeclTree} : TypeDecl.Respelled decl decl' →
      List.Forall₂ Respelled nested nested' → Respelled (.node decl nested) (.node decl' nested')

namespace DeclTree

mutual

theorem Respelled.unroot_eq : {tree tree' : DeclTree} → Respelled tree tree' → tree'.unroot = tree.unroot
  | .node _ _, _, .node hdecl hnested => by rw [unroot, unroot, hdecl.unroot_eq, unrootAll_eq hnested]

theorem unrootAll_eq : {trees trees' : List DeclTree} → List.Forall₂ Respelled trees trees' →
    unrootAll trees' = unrootAll trees
  | [], _, .nil => rfl
  | _ :: _, _, .cons htree htrees => by rw [unrootAll, unrootAll, htree.unroot_eq, unrootAll_eq htrees]

end

end DeclTree

inductive Vocabulary.Respelled : Vocabulary → Vocabulary → Prop
  | mk {v : Vocabulary} {contract member ignore inclusion options : String} :
      TypeName.Respelled v.contract contract → TypeName.Respelled v.member member →
      TypeName.Respelled v.ignore ignore → TypeName.Respelled v.inclusion inclusion →
      TypeName.Respelled v.options options →
      Respelled v { v with contract, member, ignore, inclusion, options }

theorem Vocabulary.Respelled.unroot_eq {v v' : Vocabulary} (h : Respelled v v') : v'.unroot = v.unroot := by
  obtain ⟨hcontract, hmember, hignore, hinclusion, hoptions⟩ := h
  simp only [unroot, hcontract.unroot_eq, hmember.unroot_eq, hignore.unroot_eq, hinclusion.unroot_eq,
    hoptions.unroot_eq]

inductive Settings.Respelled : Settings → Settings → Prop
  | mk {s : Settings} {vocabulary : Vocabulary} : Vocabulary.Respelled s.vocabulary vocabulary →
      Respelled s { s with vocabulary }

theorem Settings.Respelled.unroot_eq {s s' : Settings} (h : Respelled s s') : s'.unroot = s.unroot := by
  obtain ⟨hvocabulary⟩ := h
  simp only [unroot, hvocabulary.unroot_eq]

namespace Graph

/-- All that comes of a document: its failure, or what is generated from it and what the rules report of it. -/
def results (types : List DeclTree) (settings : Settings) (token : Token) :
    Except Failure (Report × List Diagnostic) :=
  (ofTypes types).map fun g => (g.generate settings token, g.diagnostics settings)

theorem results_unroot (types : List DeclTree) (settings : Settings) (token : Token) :
    results (DeclTree.unrootAll types) settings.unroot token = results types settings token := by
  rw [results, results, ofTypes_unroot]
  cases h : ofTypes types with
  | error failure => simp only [Except.map]
  | ok g => simp only [Except.map, generate_unroot, diagnostics_unroot h]

end Graph

namespace Sample

def bills (spell : String → String) : List DeclTree :=
  [.node
    { name := "Bill", namespaceName := spell "Shop", isPartial := true
      attributes :=
        [{ name := spell "ProtoBuf.ProtoContract" },
          { name := spell "ProtoBuf.ProtoInclude", arguments := [.int 10, .string (spell "Shop.Receipt" ++ ", Shop")] },
          { name := spell "ProtobufSourceGenerator.GeneratorOptions"
            named := { entries := [("PropertyAttributeType", .type (spell "Shop.Field"))], ascending := by simp } }]
      properties :=
        [{ name := "Lines", getter := some {}, setter := some {}
           type :=
             { name := spell "Shop.Lines", arguments := [{ name := spell "System.Int32", kind := .primitive }]
               interfaces := [spell "System.Collections.Generic.IList`1"] } }] } [],
    .node
      { name := "Receipt", namespaceName := "Shop", baseType := some (spell "Shop.Bill"), isPartial := true
        attributes := [{ name := spell "ProtoBuf.ProtoContract" }] } []]

def markers (spell : String → String) : Vocabulary :=
  { contract := spell "ProtoBuf.ProtoContract", member := spell "ProtoBuf.ProtoMember"
    ignore := spell "ProtoBuf.ProtoIgnore", inclusion := spell "ProtoBuf.ProtoInclude"
    options := spell "ProtobufSourceGenerator.GeneratorOptions" }

theorem respelled_rooted {name : String} (h : TypeName.normalize name = name ∧ name ≠ "") :
    TypeName.Respelled name (TypeName.rooted name) :=
  .rooted h.1 h.2

theorem respelled_bills : List.Forall₂ DeclTree.Respelled (bills id) (bills TypeName.rooted) := by
  have hnamespace : TypeName.Respelled "Shop" (TypeName.rooted "Shop") := respelled_rooted (by decide)
  have hcontract : Attribute.Respelled { name := "ProtoBuf.ProtoContract" }
      { name := TypeName.rooted "ProtoBuf.ProtoContract" } := ⟨respelled_rooted (by decide), .nil, .nil⟩
  refine .cons (.node (.mk hnamespace .none (.cons hcontract (.cons ?inclusion (.cons ?options .nil)))
    (.cons ?lines .nil)) .nil) (.cons (.node (.mk (.same _) (.some ?base) (.cons hcontract .nil) .nil) .nil) .nil)
  case inclusion =>
    have htext : AttributeValue.Respelled (.string ("Shop.Receipt" ++ ", Shop"))
        (.string (TypeName.rooted "Shop.Receipt" ++ ", Shop")) :=
      .string (respelled_rooted (by decide)) (by decide) fun c hc => (Option.some.inj hc).symm
    exact ⟨respelled_rooted (by decide), .cons (.same _) (.cons htext .nil), .nil⟩
  case options =>
    exact ⟨respelled_rooted (by decide), .nil, .cons ⟨rfl, .type (respelled_rooted (by decide))⟩ .nil⟩
  case lines =>
    have helement : TypeRef.Respelled { name := "System.Int32", kind := .primitive }
        { name := TypeName.rooted "System.Int32", kind := .primitive } := .mk (respelled_rooted (by decide)) .nil .nil
    exact .mk (.mk (respelled_rooted (by decide)) (.cons helement .nil) (.cons (respelled_rooted (by decide)) .nil))
      .nil
  case base => exact respelled_rooted (by decide)

theorem respelled_markers :
    Settings.Respelled { vocabulary := markers id } { vocabulary := markers TypeName.rooted } :=
  .mk (.mk (respelled_rooted (by decide)) (respelled_rooted (by decide)) (respelled_rooted (by decide))
    (respelled_rooted (by decide)) (respelled_rooted (by decide)))

end Sample

namespace Graph

open Sample

/-- The alias before a normal name never matters: with and without it, the same settings are accepted, the same
documents are, and the same is generated and reported. -/
theorem root_alias_never_matters {types types' : List DeclTree} {settings settings' : Settings}
    (htypes : List.Forall₂ DeclTree.Respelled types types') (hsettings : Settings.Respelled settings settings')
    (token : Token) :
    settings'.validate = settings.validate ∧ results types' settings' token = results types settings token := by
  constructor
  · rw [← settings'.validate_unroot, ← settings.validate_unroot, hsettings.unroot_eq]
  · rw [← results_unroot types', ← results_unroot types, hsettings.unroot_eq, DeclTree.unrootAll_eq htypes]

theorem root_alias_never_matters_bills :
    List.Forall₂ DeclTree.Respelled (bills id) (bills TypeName.rooted) ∧
      Settings.Respelled { vocabulary := markers id } { vocabulary := markers TypeName.rooted } ∧
      ({ vocabulary := markers TypeName.rooted } : Settings).validate =
        ({ vocabulary := markers id } : Settings).validate ∧
      results (bills TypeName.rooted) { vocabulary := markers TypeName.rooted } .never =
        results (bills id) { vocabulary := markers id } .never ∧
      (results (bills id) { vocabulary := markers id } .never).toOption.map (fun r => (r.1.units.length, r.2.length)) =
        some (1, 0) := by
  obtain ⟨hvalidate, hresults⟩ := root_alias_never_matters respelled_bills respelled_markers .never
  exact ⟨respelled_bills, respelled_markers, hvalidate, hresults, by decide +kernel⟩

end Graph

end WireShadow
