import Mathlib.Data.List.Basic
import Mathlib.Data.List.TakeWhile
import WireShadow.Proofs.NodeMap
import WireShadow.Proofs.NormalNames
import WireShadow.Settings
import WireShadow.Verdict

namespace WireShadow

namespace TypeName

/-- A name, or the same name written from the root of all namespaces. Only a normal name is written so. -/
inductive Respelled : String → String → Prop
  | same (name : String) : Respelled name name
  | rooted {name : String} : normalize name = name → name ≠ "" → Respelled name (rooted name)

/-- A name without the alias in front of it, if a normal name is left. -/
def unroot (name : String) : String :=
  match rootAlias.isPrefixOf? name.toList with
  | none => name
  | some rest =>
    if normalize (String.ofList rest) = String.ofList rest ∧ String.ofList rest ≠ "" then String.ofList rest
    else name

variable {x y x' y' name : String}

theorem unroot_eq_self (h : ¬rootAlias <+: name.toList) : unroot name = name := by
  rw [unroot]
  cases hrest : rootAlias.isPrefixOf? name.toList with
  | none => rfl
  | some rest => exact absurd ⟨rest, List.isPrefixOf?_eq_some_iff_append_eq.mp hrest⟩ h

theorem unroot_rooted (h : normalize name = name) (hne : name ≠ "") : unroot (rooted name) = name := by
  have hrest : rootAlias.isPrefixOf? (rooted name).toList = some name.toList :=
    List.isPrefixOf?_eq_some_iff_append_eq.mpr (toList_rooted name).symm
  rw [unroot, hrest]
  simp only [String.ofList_toList]
  rw [if_pos ⟨h, hne⟩]

theorem Respelled.unroot_eq (h : Respelled x y) : unroot y = unroot x := by
  cases h with
  | same => rfl
  | rooted hnormal hne => rw [unroot_rooted hnormal hne, unroot_eq_self (normalize_eq_self_iff.mp hnormal).unrooted]

theorem respelled_unroot (name : String) : Respelled (unroot name) name := by
  rw [unroot]
  cases hrest : rootAlias.isPrefixOf? name.toList with
  | none => exact .same name
  | some rest =>
      dsimp only
      split
      · next h =>
          have hname : rooted (String.ofList rest) = name := by
            rw [← String.toList_inj, toList_rooted, String.toList_ofList]
            exact List.isPrefixOf?_eq_some_iff_append_eq.mp hrest
          have hrooted := Respelled.rooted h.1 h.2
          rwa [hname] at hrooted
      · exact .same name

theorem Respelled.normalize_eq (h : Respelled x y) : normalize y = normalize x := by
  cases h with
  | same => rfl
  | rooted hnormal hne => rw [normalize_rooted (normalize_eq_self_iff.mp hnormal) hne, hnormal]

theorem Respelled.allBlank_eq (h : Respelled x y) : Text.allBlank y = Text.allBlank x := by
  cases h with
  | same => rfl
  | rooted hnormal hne =>
      obtain ⟨c, cs, hcs⟩ := List.exists_cons_of_ne_nil fun hnil => hne (String.toList_eq_nil_iff.mp hnil)
      have hfront := (normalize_eq_self_iff.mp hnormal).front c (by rw [hcs]; rfl)
      have hrooted : Text.allBlank (TypeName.rooted x) = false := by
        rw [Text.allBlank, toList_rooted]
        rfl
      rw [hrooted, Text.allBlank, hcs, List.all_cons, hfront, Bool.false_and]

theorem Respelled.dropAliases_eq (h : Respelled x y) : dropAliases y.toList = dropAliases x.toList := by
  cases h with
  | same => rfl
  | rooted => rw [toList_rooted, dropAliases_rootAlias_append]

theorem Respelled.mem_of_mem (h : Respelled x y) {c : Char} (hc : c ∈ x.toList) : c ∈ y.toList := by
  cases h with
  | same => exact hc
  | rooted => exact toList_rooted x ▸ List.mem_append_right rootAlias hc

theorem normalize_unroot (name : String) : normalize (unroot name) = normalize name :=
  (respelled_unroot name).normalize_eq.symm

theorem allBlank_unroot (name : String) : Text.allBlank (unroot name) = Text.allBlank name :=
  (respelled_unroot name).allBlank_eq.symm

theorem dropAliases_unroot (name : String) : dropAliases (unroot name).toList = dropAliases name.toList :=
  (respelled_unroot name).dropAliases_eq.symm

theorem sameAttribute_unroot (x y : String) : sameAttribute (unroot x) (unroot y) = sameAttribute x y := by
  rw [sameAttribute, sameAttribute, normalize_unroot, normalize_unroot]

end TypeName

namespace Vocabulary

def unroot (v : Vocabulary) : Vocabulary :=
  { v with
    contract := TypeName.unroot v.contract
    member := TypeName.unroot v.member
    ignore := TypeName.unroot v.ignore
    inclusion := TypeName.unroot v.inclusion
    options := TypeName.unroot v.options }

variable (v : Vocabulary) (name : String)

theorem isContract_unroot : v.unroot.isContract (TypeName.unroot name) = v.isContract name :=
  TypeName.sameAttribute_unroot name v.contract

theorem isManual_unroot : v.unroot.isManual (TypeName.unroot name) = v.isManual name :=
  congrArg₂ (· || ·) (TypeName.sameAttribute_unroot name v.member) (TypeName.sameAttribute_unroot name v.ignore)

theorem isInclusion_unroot : v.unroot.isInclusion (TypeName.unroot name) = v.isInclusion name :=
  TypeName.sameAttribute_unroot name v.inclusion

theorem isOptions_unroot : v.unroot.isOptions (TypeName.unroot name) = v.isOptions name :=
  TypeName.sameAttribute_unroot name v.options

theorem memberText_unroot : v.unroot.memberText = v.memberText := by
  rw [memberText, memberText]
  exact congrArg (fun name => TypeName.rooted (TypeName.stripEnding name)) (TypeName.normalize_unroot v.member)

end Vocabulary

namespace Settings

def unroot (s : Settings) : Settings := { s with vocabulary := s.vocabulary.unroot }

theorem validate_unroot (s : Settings) : s.unroot.validate = s.validate := by
  have hnames :
      s.unroot.vocabulary.entries.map (fun e => (!Text.allBlank e.2, SettingsDefect.emptyName e.1)) =
        s.vocabulary.entries.map fun e => (!Text.allBlank e.2, SettingsDefect.emptyName e.1) := by
    simp only [Vocabulary.entries, unroot, Vocabulary.unroot, List.map_cons, List.map_nil, TypeName.allBlank_unroot]
  have hchecks : s.unroot.checks = s.checks := congrArg (_ ++ ·) hnames
  rw [validate, validate, hchecks]

end Settings

namespace AttributeValue

def splitText (text : String) : String × String :=
  (String.ofList (text.toList.takeWhile (· != ',')), String.ofList (text.toList.dropWhile (· != ',')))

def unroot : AttributeValue → AttributeValue
  | .type name => .type (TypeName.unroot name)
  | .string text => .string (TypeName.unroot (splitText text).1 ++ (splitText text).2)
  | value => value

variable {name rest : String}

theorem splitText_append (hname : ',' ∉ name.toList) (hrest : ∀ c ∈ rest.toList.head?, c = ',') :
    splitText (name ++ rest) = (name, rest) := by
  have hbefore : ∀ c ∈ name.toList, (c != ',') = true := fun c hc => bne_iff_ne.mpr fun heq => hname (heq ▸ hc)
  have hbehind : rest.toList.takeWhile (· != ',') = [] ∧ rest.toList.dropWhile (· != ',') = rest.toList := by
    cases hchars : rest.toList with
    | nil => exact ⟨rfl, rfl⟩
    | cons c cs =>
        obtain rfl : c = ',' := hrest c (by rw [hchars]; rfl)
        exact ⟨rfl, rfl⟩
  rw [splitText, String.toList_append, List.takeWhile_append_of_pos hbefore, List.dropWhile_append_of_pos hbefore,
    hbehind.1, hbehind.2, List.append_nil, String.ofList_toList, String.ofList_toList]

theorem exists_splitText (text : String) :
    ∃ name rest, text = name ++ rest ∧ ',' ∉ name.toList ∧ ∀ c ∈ rest.toList.head?, c = ',' := by
  refine ⟨(splitText text).1, (splitText text).2, ?_, fun hcomma => ?_, fun c hc => ?_⟩
  · rw [← String.toList_inj, String.toList_append, splitText, String.toList_ofList, String.toList_ofList,
      List.takeWhile_append_dropWhile]
  · rw [splitText, String.toList_ofList] at hcomma
    simpa using List.mem_takeWhile_imp hcomma
  · rw [splitText, String.toList_ofList] at hc
    have hfirst := List.head?_dropWhile_not (· != ',') text.toList
    rw [hc] at hfirst
    simpa using hfirst

theorem derived?_append (hname : ',' ∉ name.toList) (hrest : ∀ c ∈ rest.toList.head?, c = ',') :
    (string (name ++ rest)).derived? =
      if (TypeName.normalize name).isEmpty then none else some (TypeName.normalize name) := by
  have hsplit : String.ofList ((name ++ rest).toList.takeWhile (· != ',')) = name :=
    congrArg Prod.fst (splitText_append hname hrest)
  rw [derived?, hsplit]

theorem unroot_append (hname : ',' ∉ name.toList) (hrest : ∀ c ∈ rest.toList.head?, c = ',') :
    unroot (string (name ++ rest)) = string (TypeName.unroot name ++ rest) := by
  rw [unroot, splitText_append hname hrest]

theorem derived?_unroot (value : AttributeValue) : value.unroot.derived? = value.derived? := by
  cases value with
  | type name => exact congrArg some (TypeName.normalize_unroot name)
  | string text =>
      obtain ⟨name, rest, rfl, hname, hrest⟩ := exists_splitText text
      have hkept : ',' ∉ (TypeName.unroot name).toList := fun hcomma =>
        hname ((TypeName.respelled_unroot name).mem_of_mem hcomma)
      rw [unroot_append hname hrest, derived?_append hkept hrest, derived?_append hname hrest,
        TypeName.normalize_unroot]
  | int | bool | null => rfl

end AttributeValue

namespace NamedArguments

def unroot (args : NamedArguments) : NamedArguments where
  entries := args.entries.map fun e => (e.1, e.2.unroot)
  ascending := List.pairwise_map.mpr args.ascending

theorem get?_unroot (args : NamedArguments) (name : String) :
    args.unroot.get? name = (args.get? name).map AttributeValue.unroot := by
  change List.lookup name (args.entries.map _) = (args.entries.lookup name).map _
  induction args.entries with
  | nil => rfl
  | cons e entries ih =>
      rw [List.map_cons, List.lookup_cons, List.lookup_cons, ih]
      cases name == e.1 <;> rfl

end NamedArguments

namespace Attribute

def unroot (a : Attribute) : Attribute where
  name := TypeName.unroot a.name
  arguments := a.arguments.map AttributeValue.unroot
  named := a.named.unroot

@[simp] theorem name_unroot (a : Attribute) : a.unroot.name = TypeName.unroot a.name := rfl

theorem firstInt_unroot (a : Attribute) : a.unroot.firstInt = a.firstInt := by
  rw [firstInt, firstInt, unroot, List.findSome?_map]
  exact congrArg (a.arguments.findSome? ·) (funext fun value => by cases value <;> rfl)

theorem tag?_unroot (a : Attribute) : a.unroot.tag? = a.tag? := by
  rw [tag?, tag?, unroot, List.findSome?_map]
  exact congrArg (a.arguments.findSome? ·) (funext fun value => by cases value <;> rfl)

theorem derived?_unroot (a : Attribute) :
    a.unroot.arguments.findSome? AttributeValue.derived? = a.arguments.findSome? AttributeValue.derived? := by
  rw [unroot, List.findSome?_map]
  exact congrArg (a.arguments.findSome? ·) (funext AttributeValue.derived?_unroot)

end Attribute

section Markers

variable (v : Vocabulary) (attributes : List Attribute)

theorem hasContract_unroot : hasContract v.unroot (attributes.map Attribute.unroot) = hasContract v attributes := by
  simp only [hasContract, List.any_map, Function.comp_def, Attribute.name_unroot, Vocabulary.isContract_unroot]

theorem tagMarker_unroot : tagMarker v.unroot (attributes.map Attribute.unroot) = tagMarker v attributes := by
  simp only [tagMarker, List.foldl_map, Attribute.name_unroot, Vocabulary.isManual_unroot, Attribute.tag?_unroot]

end Markers

namespace TypeRef

mutual

def unroot : TypeRef → TypeRef
  | ⟨name, kind, arguments, nullable, interfaces⟩ =>
    ⟨TypeName.unroot name, kind, unrootAll arguments, nullable, interfaces.map TypeName.unroot⟩

def unrootAll : List TypeRef → List TypeRef
  | [] => []
  | type :: types => unroot type :: unrootAll types

end

theorem unrootAll_eq_map (types : List TypeRef) : unrootAll types = types.map unroot := by
  induction types with
  | nil => rfl
  | cons type types ih => rw [unrootAll, ih, List.map_cons]

variable (t : TypeRef)

theorem qualifiedName_unroot : t.unroot.qualifiedName = t.qualifiedName := by
  cases t
  exact TypeName.normalize_unroot _

theorem kind_unroot : t.unroot.kind = t.kind := by
  cases t
  rfl

theorem nullable_unroot : t.unroot.nullable = t.nullable := by
  cases t
  rfl

theorem arguments_unroot : t.unroot.arguments = t.arguments.map unroot := by
  cases t
  exact unrootAll_eq_map _

theorem interfaces_unroot : t.unroot.interfaces = t.interfaces.map TypeName.unroot := by
  cases t
  rfl

theorem isGeneric_unroot : t.unroot.isGeneric = t.isGeneric := by
  rw [isGeneric, isGeneric, kind_unroot, arguments_unroot, List.isEmpty_map]

theorem openDefinition_unroot : t.unroot.openDefinition = t.openDefinition := by
  rw [openDefinition, openDefinition, isGeneric_unroot, qualifiedName_unroot, arguments_unroot, List.length_map]

theorem collectionShape_unroot : t.unroot.collectionShape = t.collectionShape := by
  have hcontracts : Collections.contracts t.unroot = Collections.contracts t := by
    simp only [Collections.contracts, openDefinition_unroot, interfaces_unroot, List.map_map, Function.comp_def,
      TypeName.dropAliases_unroot]
  rw [collectionShape, collectionShape, openDefinition_unroot, kind_unroot, hcontracts]

end TypeRef

namespace Property

def unroot (p : Property) : Property :=
  { p with type := p.type.unroot, attributes := p.attributes.map Attribute.unroot }

theorem marker_unroot (v : Vocabulary) (p : Property) : p.unroot.marker v.unroot = p.marker v :=
  tagMarker_unroot v p.attributes

end Property

namespace TypeDecl

def unroot (d : TypeDecl) : TypeDecl :=
  { d with
    namespaceName := TypeName.unroot d.namespaceName
    baseType := d.baseType.map TypeName.unroot
    attributes := d.attributes.map Attribute.unroot
    properties := d.properties.map Property.unroot }

variable (v : Vocabulary) (d : TypeDecl)

theorem baseName_unroot : d.unroot.baseType.map TypeName.normalize = d.baseType.map TypeName.normalize := by
  simp only [unroot, Option.map_map, Function.comp_def, TypeName.normalize_unroot]

theorem hasContract_unroot : hasContract v.unroot d.unroot.attributes = hasContract v d.attributes :=
  WireShadow.hasContract_unroot v d.attributes

theorem isRoot_unroot : d.unroot.isRoot v.unroot = d.isRoot v :=
  congrArg (d.isPartial && ·) (hasContract_unroot v d)

theorem options_unroot : d.unroot.options v.unroot = d.options v := by
  have hmarker : d.unroot.attributes.find? (fun a => v.unroot.isOptions a.name) =
      (d.attributes.find? fun a => v.isOptions a.name).map Attribute.unroot := by
    simp only [unroot, List.find?_map, Function.comp_def, Attribute.name_unroot, Vocabulary.isOptions_unroot]
  rw [options, options, hmarker]
  cases d.attributes.find? fun a => v.isOptions a.name with
  | none => rfl
  | some a =>
      have hargument : a.unroot.named.get? v.unroot.optionsProperty =
          (a.named.get? v.optionsProperty).map AttributeValue.unroot :=
        a.named.get?_unroot v.optionsProperty
      simp only [Option.map_some, hargument]
      cases a.named.get? v.optionsProperty with
      | none => rfl
      | some value =>
          cases value with
          | type name =>
              simp only [Option.map_some, AttributeValue.unroot, TypeName.allBlank_unroot, TypeName.normalize_unroot]
          | int | string | bool | null => rfl

theorem customAttribute_unroot : d.unroot.customAttribute v.unroot = d.customAttribute v := by
  rw [customAttribute, customAttribute, options_unroot]

theorem includes_unroot (derived : String) : d.unroot.includes v.unroot derived = d.includes v derived := by
  have hinclusions : d.unroot.inclusions v.unroot = d.inclusions v := by
    simp only [inclusions, unroot, List.filter_map, List.map_map, Function.comp_def, Attribute.name_unroot,
      Vocabulary.isInclusion_unroot, Attribute.firstInt_unroot, Attribute.derived?_unroot]
  rw [includes, includes, hinclusions, hasContract_unroot]

end TypeDecl

end WireShadow
