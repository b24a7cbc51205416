import WireShadow.Proofs.MemberNames
import WireShadow.Proofs.NormalNames
import WireShadow.Proofs.OutputKeys

namespace WireShadow

namespace Path

def Unseparated (name : String) : Prop := ∀ c ∈ name.toList, c ≠ '/' ∧ c ≠ '\\'

instance (name : String) : Decidable (Unseparated name) :=
  List.decidableBAll (fun c => c ≠ '/' ∧ c ≠ '\\') name.toList

variable {x y : String}

theorem unseparated_append_iff : Unseparated (x ++ y) ↔ Unseparated x ∧ Unseparated y := by
  rw [Unseparated, String.toList_append, List.forall_mem_append]
  rfl

end Path

namespace TypeDescriptor

variable {d : TypeDescriptor}

theorem unseparated_withArity {name : String} (h : Path.Unseparated name) (count : Nat) :
    Path.Unseparated (TypeRef.withArity name count) := by
  rw [TypeRef.withArity]
  split
  · exact h
  · refine Path.unseparated_append_iff.mpr ⟨Path.unseparated_append_iff.mpr ⟨h, by decide⟩, fun c hc => ?_⟩
    have hdigit := TypeRef.isDigit_of_mem_toString hc
    constructor <;> rintro rfl <;> exact absurd hdigit (by decide)

theorem unseparated_keyName (h : ∀ n ∈ d.segments, Path.Unseparated n.1) : Path.Unseparated d.keyName := by
  intro c hc
  rw [keyName, String.toList_intercalate, List.map_map] at hc
  rcases mem_intercalate hc with hdot | ⟨part, hpart, hc⟩
  · obtain rfl : c = '.' := by simpa using hdot
    decide
  · obtain ⟨n, hn, rfl⟩ := List.mem_map.mp hpart
    exact unseparated_withArity (h n hn) n.2 c hc

end TypeDescriptor

namespace FileTree

variable {t t' t'' : FileTree} {P : List String → Prop} {directory key text : String}

def placeOf (t : FileTree) (directory : String) : List String :=
  (Path.front directory).foldl enter (t.start directory)

/-- Nothing changes but in some places. -/
structure ChangesOnly (P : List String → Prop) (t t' : FileTree) : Prop where
  workingDirectory : t'.workingDirectory = t.workingDirectory
  outside : ∀ place, ¬P place → t'.get? place = t.get? place

theorem ChangesOnly.refl (P : List String → Prop) (t : FileTree) : ChangesOnly P t t := ⟨rfl, fun _ _ => rfl⟩

theorem ChangesOnly.trans (h : ChangesOnly P t t') (h' : ChangesOnly P t' t'') : ChangesOnly P t t'' where
  workingDirectory := h'.workingDirectory.trans h.workingDirectory
  outside place hplace := (h'.outside place hplace).trans (h.outside place hplace)

theorem placeOf_eq (h : t'.workingDirectory = t.workingDirectory) : t'.placeOf directory = t.placeOf directory := by
  rw [placeOf, placeOf, start, start, h]

theorem Wrote.changesOnly {result : Except DiskFault Unit} (h : t.Wrote (Path.join directory key) text result t')
    (hkey : Path.IsName key) (hplace : P (t.placeOf directory ++ [key])) : ChangesOnly P t t' := by
  cases h with
  | refused fault => exact .refl P t
  | @left _ place left hfind hentry htext =>
      obtain rfl : place = t.placeOf directory ++ [key] := find_join hkey hfind hentry
      refine ⟨rfl, fun other hother => get_put_of_ne (t := t.afterWrite) ?_ _⟩
      rintro rfl
      exact hother hplace

end FileTree

namespace Command

variable {directory : String} {files : List GeneratedUnit}

/-- Files that are written to a directory become files directly in it, and nothing else changes. -/
def WritesInside (directory : String) (files : List GeneratedUnit) : Prop :=
  ∀ p t, ∃ result t', (writeUnits directory files : Work (StateM FileTree) Unit).on p t = ((result, p), t') ∧
    FileTree.ChangesOnly
      (fun place => ∃ file ∈ files, place = (withDirectory t directory).placeOf directory ++ [file.outputKey])
      (withDirectory t directory) t'

theorem Writes.changesOnly {P : List String → Prop} {t t' : FileTree} {result : Except CommandFault Unit}
    (h : Writes directory files t result t') (hnames : ∀ file ∈ files, Path.IsName file.outputKey)
    (hplaces : ∀ file ∈ files, P (t.placeOf directory ++ [file.outputKey])) : FileTree.ChangesOnly P t t' := by
  induction h with
  | done t => exact .refl P t
  | fail _ hwrite =>
      have hname := hnames _ List.mem_cons_self
      exact (FileTree.wrote_of_write (Path.endsOpen_join hname) hwrite).changesOnly hname
        (hplaces _ List.mem_cons_self)
  | next hwrite _ ih =>
      obtain ⟨hname, hnames⟩ := List.forall_mem_cons.mp hnames
      obtain ⟨hplace, hplaces⟩ := List.forall_mem_cons.mp hplaces
      have hfirst := (FileTree.wrote_of_write (Path.endsOpen_join hname) hwrite).changesOnly hname hplace
      refine hfirst.trans (ih hnames fun file hfile => ?_)
      rw [FileTree.placeOf_eq hfirst.workingDirectory]
      exact hplaces file hfile

theorem writesInside_of_isName (hnames : ∀ file ∈ files, Path.IsName file.outputKey) (directory : String) :
    WritesInside directory files := by
  intro p t
  obtain ⟨result, t', hrun, ⟨fault, rfl, rfl⟩ | hwrites⟩ := on_writeUnits directory files p t
  · exact ⟨_, _, hrun, .refl _ _⟩
  · exact ⟨_, _, hrun, hwrites.changesOnly hnames fun file hfile => ⟨file, hfile, rfl⟩⟩

end Command

namespace Settings

variable {settings : Settings}

theorem unseparated_outputPrefix (h : settings.validate = .ok ()) : Path.Unseparated settings.outputPrefix := by
  have hcheck : (settings.outputPrefix.toList.all fun c => c != '/' && c != '\\', SettingsDefect.separatorInOutput) ∈
      settings.checks := by
    simp [checks]
  simpa [Path.Unseparated] using check_of_validate h hcheck

theorem outputExtension_ne_empty (h : settings.validate = .ok ()) : settings.outputExtension ≠ "" := by
  have hcheck : (settings.outputExtension.toList.head? == some '.' && 2 ≤ settings.outputExtension.utf8ByteSize,
      SettingsDefect.badExtension settings.outputExtension) ∈ settings.checks := by
    simp [checks]
  intro hempty
  have hdot := check_of_validate h hcheck
  rw [hempty] at hdot
  cases hdot

end Settings

namespace Graph

variable {types : List DeclTree} {g : Graph} {settings : Settings}

theorem unseparated_outputKey_iff (hg : ofTypes types = .ok g)
    (hnames : ∀ node ∈ g.nodes, Path.Unseparated node.decl.name ∧ Path.Unseparated node.namespaceName)
    (hvalid : settings.validate = .ok ()) {token : TypeNode → Token} {file : GeneratedUnit}
    (hfile : file ∈ (g.generateWith settings token).units) :
    Path.Unseparated file.outputKey ↔ Path.Unseparated settings.outputExtension := by
  obtain ⟨node, hnode, d, hd, hkey⟩ := exists_describe_of_mem_units hfile
  have hsegments := map_fst_segments_of_describe hg hnode hd
  obtain rfl := eq_layOut hg
  have hmiddle : Path.Unseparated d.keyName := by
    refine TypeDescriptor.unseparated_keyName fun n hn => ?_
    have hmem : n.1 ∈ ((layOut types).site node).segments := hsegments ▸ List.mem_map_of_mem hn
    exact forall_segments hnames hnode n.1 hmem
  rw [hkey, TypeDescriptor.outputKey_eq, Path.unseparated_append_iff, Path.unseparated_append_iff]
  exact and_iff_right ⟨Settings.unseparated_outputPrefix hvalid, hmiddle⟩

/-- The extension alone decides whether output keys are names for a directory, since it is not checked for separators
as the prefix is. Where it has none, all files are written directly to the directory. -/
theorem output_keys_unseparated_iff (hg : ofTypes types = .ok g)
    (hnames : ∀ node ∈ g.nodes, Path.Unseparated node.decl.name ∧ Path.Unseparated node.namespaceName)
    (hvalid : settings.validate = .ok ()) (token : TypeNode → Token) :
    (∀ file ∈ (g.generateWith settings token).units,
      Path.Unseparated file.outputKey ↔ Path.Unseparated settings.outputExtension) ∧
    (Path.Unseparated settings.outputExtension →
      ∀ directory, Command.WritesInside directory (g.generateWith settings token).units) := by
  refine ⟨fun file hfile => unseparated_outputKey_iff hg hnames hvalid hfile, fun hextension directory => ?_⟩
  refine Command.writesInside_of_isName (fun file hfile => ⟨fun hslash => ?_, fun hempty => ?_⟩) directory
  · exact ((unseparated_outputKey_iff hg hnames hvalid hfile).mpr hextension '/' hslash).1 rfl
  · obtain ⟨node, -, d, -, hkey⟩ := exists_describe_of_mem_units hfile
    rw [hkey, TypeDescriptor.outputKey_eq, String.append_eq_empty_iff] at hempty
    exact Settings.outputExtension_ne_empty hvalid hempty.2

open Sample

theorem output_keys_unseparated_iff_boxed :
    ofTypes boxedTypes = .ok (layOut boxedTypes) ∧
      (∀ node ∈ (layOut boxedTypes).nodes,
        Path.Unseparated node.decl.name ∧ Path.Unseparated node.namespaceName) ∧
      ({} : Settings).validate = .ok () ∧ Path.Unseparated ({} : Settings).outputExtension ∧
      ((layOut boxedTypes).generateWith {} fun _ => .never).units.map (·.outputKey) =
        ["ProtoTest.Box`1.Order.g.cs"] ∧
      (∀ file ∈ ((layOut boxedTypes).generateWith {} fun _ => .never).units, Path.Unseparated file.outputKey) ∧
      Command.WritesInside "out" ((layOut boxedTypes).generateWith {} fun _ => .never).units := by
  have hg : ofTypes boxedTypes = .ok (layOut boxedTypes) := rfl
  have hnames : ∀ node ∈ (layOut boxedTypes).nodes,
      Path.Unseparated node.decl.name ∧ Path.Unseparated node.namespaceName := by decide +kernel
  have hvalid : ({} : Settings).validate = .ok () := rfl
  have hextension : Path.Unseparated ({} : Settings).outputExtension := by decide
  obtain ⟨hkeys, hinside⟩ := output_keys_unseparated_iff hg hnames hvalid fun _ => .never
  exact ⟨hg, hnames, hvalid, hextension, map_outputKey_boxedTypes,
    fun file hfile => (hkeys file hfile).mpr hextension, hinside hextension "out"⟩

/-- With an extension that passes the checks, an output key can be a path, and lead out of the directory. -/
theorem output_keys_can_leave_directory :
    ofTypes boxedTypes = .ok (layOut boxedTypes) ∧
      (∀ node ∈ (layOut boxedTypes).nodes,
        Path.Unseparated node.decl.name ∧ Path.Unseparated node.namespaceName) ∧
      (Settings.validate { outputExtension := "./../../x.cs" }).isOk = true ∧
      ((layOut boxedTypes).generate { outputExtension := "./../../x.cs" } .never).units.map (·.outputKey) =
        ["ProtoTest.Box`1.Order./../../x.cs"] ∧
      ¬Path.Unseparated "ProtoTest.Box`1.Order./../../x.cs" ∧
      (FileTree.find
        { entries := [(["work", "out"], none), (["work", "out", "ProtoTest.Box`1.Order."], none)] }
        (Path.join "out" "ProtoTest.Box`1.Order./../../x.cs")).toOption = some ["work", "x.cs"] := by
  refine ⟨rfl, ?_, ?_, ?_, ?_, ?_⟩ <;> decide +kernel

end Graph

end WireShadow
