import WireShadow.Graph
import WireShadow.Proofs.Decoding
import WireShadow.Proofs.MemberTags

namespace WireShadow

namespace NamedArguments

theorem place_of_lt {name : String} {value : AttributeValue} {entries : List (String × AttributeValue)}
    (h : ∀ e ∈ entries, e.1 < name) : place name value entries = entries ++ [(name, value)] := by
  induction entries with
  | nil => rfl
  | cons e entries ih =>
      obtain ⟨he, hentries⟩ := List.forall_mem_cons.mp h
      rw [place, if_neg (String.lt_asymm he), if_neg (String.ne_of_lt he).symm, ih hentries]
      rfl

theorem entries_foldl_insert {args : NamedArguments} {entries : List (String × AttributeValue)}
    (h : (args.entries ++ entries).Pairwise (·.1 < ·.1)) :
    (entries.foldl (fun args e => args.insert e.1 e.2) args).entries = args.entries ++ entries := by
  induction entries generalizing args with
  | nil => rw [List.foldl_nil, List.append_nil]
  | cons e entries ih =>
      have hbefore : ∀ e' ∈ args.entries, e'.1 < e.1 := fun e' he' =>
        (List.pairwise_append.mp h).2.2 e' he' e List.mem_cons_self
      have hinsert : (args.insert e.1 e.2).entries = args.entries ++ [e] := place_of_lt hbefore
      have hrest : ((args.insert e.1 e.2).entries ++ entries).Pairwise (·.1 < ·.1) := by
        rw [hinsert, List.append_assoc]
        exact h
      rw [List.foldl_cons, ih hrest, hinsert, List.append_assoc, List.singleton_append]

theorem ofList_entries (args : NamedArguments) : ofList args.entries = args := by
  have hentries : (ofList args.entries).entries = args.entries := entries_foldl_insert args.ascending
  obtain ⟨entries, hascending⟩ := args
  exact (mk.injEq _ _ _ _).mpr hentries

end NamedArguments

theorem TypeRef.allToJson_eq_map (types : List TypeRef) : allToJson types = types.map (·.toJson) := by
  induction types with
  | nil => rfl
  | cons type types ih => rw [allToJson, ih, List.map_cons]

theorem DeclTree.allToJson_eq_map (trees : List DeclTree) : allToJson trees = trees.map (·.toJson) := by
  induction trees with
  | nil => rfl
  | cons tree trees ih => rw [allToJson, ih, List.map_cons]

namespace Declaration

open Json Json.Decode Value

theorem readsBack_texts (level : Nat) : ReadsBack texts Value.texts level :=
  readsBack_many level fun _ _ _ _ => rfl

theorem readsBack_location (level : Nat) : ReadsBack location Location.toJson level := fun l hdepth =>
  struct_bind (t := (l.file, l.line, l.column, ())) "Location"
    (fun _ => .cons (fun _ => rfl) <| .cons (fun _ => uint32_integer l.line) <|
      .cons (fun _ => uint32_integer l.column) .nil)
    (by simp) hdepth

theorem readsBack_attributeValue (level : Nat) : ReadsBack attributeValue AttributeValue.toJson level := by
  intro a hdepth
  cases a with
  | null => exact choice_plain rfl level
  | int n =>
    cases level with
    | zero => exact absurd hdepth (Nat.not_succ_le_zero _)
    | succ level => exact choice_holding (by rfl) (congrArg (Except.map AttributeValue.int) (int64_integer n)) level
  | string s | type s | bool s =>
    cases level with
    | zero => exact absurd hdepth (Nat.not_succ_le_zero _)
    | succ level => exact choice_holding (by rfl) (by rfl) level

theorem readsBack_attributeData (level : Nat) : ReadsBack attributeData Attribute.toJson level := by
  intro a hdepth
  have hvalues (level : Nat) := readsBack_many level fun inner _ => readsBack_attributeValue inner
  have hnamed (level : Nat) := readsBack_map level fun inner _ => readsBack_attributeValue inner
  refine (struct_bind (t := (a.name, a.arguments, a.named.entries, ())) "AttributeData"
    (fun inner => .cons (fun _ => rfl) <| .cons (hvalues inner a.arguments) <|
      .cons (hnamed inner a.named.entries) .nil)
    (by simp) hdepth).trans ?_
  change Except.ok { a with named := NamedArguments.ofList a.named.entries } = _
  rw [NamedArguments.ofList_entries]

theorem readsBack_typeRefKind (level : Nat) : ReadsBack typeRefKind (fun kind => .string kind.key) level := by
  intro kind _
  cases kind <;> exact choice_plain rfl level

theorem typeRef_succ (level : Nat) (tree : Tree) :
    typeRef (level + 1) tree =
      (record "TypeRef" (some (typeRefFields (many typeRef level) level)) tree >>= fun fields =>
        let (name, kind, arguments, nullable, interfaces, _) := fields
        pure { name, kind, arguments, nullable, interfaces }) := by
  cases level <;> rfl

theorem readsBack_typeRef (level : Nat) : ReadsBack typeRef TypeRef.toJson level := by
  induction level using Nat.strongRecOn with
  | ind level ih =>
      intro t hdepth
      obtain ⟨name, kind, arguments, nullable, interfaces⟩ := t
      rw [TypeRef.toJson, TypeRef.allToJson_eq_map] at hdepth ⊢
      cases level with
      | zero => exact absurd hdepth (Nat.not_succ_le_zero _)
      | succ level =>
          have harguments := readsBack_many level fun inner hinner => ih inner (Nat.lt_succ_of_lt hinner)
          rw [typeRef_succ]
          exact record_bind (t := (name, kind, arguments, nullable, interfaces, ())) "TypeRef"
            (.cons (fun _ => rfl) <| .cons (readsBack_typeRefKind level kind) <|
              .cons (harguments arguments) <| .cons (fun _ => rfl) <|
              .cons (readsBack_texts level interfaces) .nil)
            (by simp) hdepth

theorem readsBack_accessorBody (level : Nat) : ReadsBack accessorBody (fun body => .string body.key) level := by
  intro body _
  cases body <;> exact choice_plain rfl level

theorem readsBack_accessor (level : Nat) : ReadsBack accessor Accessor.toJson level := fun a hdepth =>
  struct_bind (t := (a.body, a.isInitOnly, a.isReadOnly, ())) "Accessor"
    (fun inner => .cons (readsBack_accessorBody inner a.body) <| .cons (fun _ => rfl) <|
      .cons (fun _ => rfl) .nil)
    (by simp) hdepth

theorem readsBack_property (level : Nat) : ReadsBack property Property.toJson level := by
  intro p hdepth
  have haccessor (level : Nat) := readsBack_nullable (readsBack_accessor level) fun _ h => Tree.noConfusion h
  have hattributes (level : Nat) := readsBack_many level fun inner _ => readsBack_attributeData inner
  exact struct_bind
    (t := (p.name, p.type, p.getter, p.setter, p.isStatic, p.attributes, p.location, ())) "PropertyDecl"
    (fun inner => .cons (fun _ => rfl) <| .cons (readsBack_typeRef inner p.type) <|
      .cons (haccessor inner p.getter) <| .cons (haccessor inner p.setter) <| .cons (fun _ => rfl) <|
      .cons (hattributes inner p.attributes) <| .cons (readsBack_location inner p.location) .nil)
    (by simp) hdepth

theorem readsBack_typeKind (level : Nat) : ReadsBack typeKind (fun kind => .string kind.key) level := by
  intro kind _
  cases kind <;> exact choice_plain rfl level

theorem tree_succ (level : Nat) (t : Tree) :
    tree (level + 1) t =
      (record "TypeDecl" (some (typeFields (many tree level) level)) t >>= fun fields =>
        let (name, namespaceName, kind, isRecord, isPartial, isStatic, typeParameters, baseType, attributes,
          properties, nested, location, _) := fields
        pure (.node { name, namespaceName, kind, isRecord, isPartial, isStatic, typeParameters, baseType, attributes,
                      properties, location } nested)) := by
  cases level <;> rfl

theorem readsBack_tree (level : Nat) : ReadsBack tree DeclTree.toJson level := by
  induction level using Nat.strongRecOn with
  | ind level ih =>
      intro t hdepth
      obtain ⟨d, nested⟩ := t
      rw [DeclTree.toJson, DeclTree.allToJson_eq_map, TypeDecl.toJson] at hdepth ⊢
      cases level with
      | zero => exact absurd hdepth (Nat.not_succ_le_zero _)
      | succ level =>
          have hbase : ReadsBack (fun _ => nullable text) (orNull .string) level :=
            readsBack_nullable (fun _ _ => rfl) fun _ h => Tree.noConfusion h
          have hattributes := readsBack_many level fun inner _ => readsBack_attributeData inner
          have hproperties := readsBack_many level fun inner _ => readsBack_property inner
          have hnested := readsBack_many level fun inner hinner => ih inner (Nat.lt_succ_of_lt hinner)
          rw [tree_succ]
          exact record_bind
            (t := (d.name, d.namespaceName, d.kind, d.isRecord, d.isPartial, d.isStatic, d.typeParameters,
              d.baseType, d.attributes, d.properties, nested, d.location, ())) "TypeDecl"
            (.cons (fun _ => rfl) <| .cons (fun _ => rfl) <| .cons (readsBack_typeKind level d.kind) <|
              .cons (fun _ => rfl) <| .cons (fun _ => rfl) <| .cons (fun _ => rfl) <|
              .cons (readsBack_texts level d.typeParameters) <| .cons (hbase d.baseType) <|
              .cons (hattributes d.attributes) <| .cons (hproperties d.properties) <|
              .cons (hnested nested) <| .cons (readsBack_location level d.location) .nil)
            (by simp) hdepth

theorem readsBack_types (level : Nat) : ReadsBack types DeclTree.documentJson level := by
  intro trees hdepth
  rw [DeclTree.documentJson, DeclTree.allToJson_eq_map] at hdepth ⊢
  have htrees (level : Nat) := readsBack_many level fun inner _ => readsBack_tree inner
  exact struct_bind (t := (trees, ())) "DeclarationDocument" (fun inner => .cons (htrees inner trees) .nil)
    (by simp) hdepth

end Declaration

namespace Sample

def annotated : TypeDecl :=
  { name := "Note\"\n", namespaceName := "Test", typeParameters := ["T"], baseType := some "global::Test.Base"
    attributes :=
      [{ name := "Mark", arguments := [.int Int64.minValue, .string "é\t", .type "Test.Base", .bool true, .null]
         named := .ofList [("Order", .int 2), ("Name", .null)] }]
    properties := [{ name := "Lines", type := { numbers with nullable := true, interfaces := ["I"] }
                     getter := some { body := .expression }, location := { file := "a.cs", line := 4294967295 } }] }

end Sample

namespace Graph

open Json

/-- A document with at most 127 levels is read back from its text, on one line or however its parts are spaced. -/
theorem document_reads_back (types : List DeclTree) (hdepth : (DeclTree.documentJson types).depth ≤ 127) :
    Decode.document Declaration.types (DeclTree.documentJson types).compact = .ok types ∧
      ofJson (DeclTree.documentJson types).compact = ofTypes types ∧
      ∀ text : String, (DeclTree.documentJson types).SpelledAs text.toList →
        Decode.document Declaration.types text = .ok types ∧ ofJson text = ofTypes types := by
  have hread (text : String) (htext : (DeclTree.documentJson types).SpelledAs text.toList) :
      Decode.document Declaration.types text = .ok types ∧ ofJson text = ofTypes types := by
    have hdocument : Decode.document Declaration.types text = .ok types :=
      Decode.document_spelled (Declaration.readsBack_types levels) hdepth htext
    exact ⟨hdocument, by rw [ofJson, hdocument]⟩
  obtain ⟨hdocument, hgraph⟩ := hread _ (Value.spelledAs_compact _)
  exact ⟨hdocument, hgraph, hread⟩

theorem document_reads_back_sample :
    let types := [DeclTree.node Sample.annotated [.node Sample.order [], .node Sample.shade []]]
    (DeclTree.documentJson types).depth = 11 ∧
      Decode.document Declaration.types (DeclTree.documentJson types).compact = .ok types ∧
      Decode.document Declaration.types (DeclTree.documentJson types).pretty = .ok types := by
  intro types
  have hdepth : (DeclTree.documentJson types).depth = 11 := by decide +kernel
  obtain ⟨hcompact, -, hread⟩ := document_reads_back types (hdepth ▸ by decide)
  exact ⟨hdepth, hcompact, (hread _ (Value.spelledAs_pretty _)).1⟩

end Graph

end WireShadow
