import WireShadow.GeneratedUnit
import WireShadow.Proofs.CodeBlocks
import WireShadow.Proofs.Description

namespace WireShadow

open CSharp

def MemberText.code (m : MemberText) : List Code := [.line m.attributeLine, .line m.declaration]

namespace TypeDescriptor

def separated : List MemberText → List Code
  | [] => []
  | [m] => m.code
  | m :: m' :: ms => m.code ++ .blank :: separated (m' :: ms)

def nested (body : List Code) : List TypeHead → List Code
  | [] => body
  | h :: hs => [.block h.header (nested body hs)]

variable (d : TypeDescriptor) (settings : Settings)

def inNamespace (types : List Code) : List Code :=
  if d.head.namespaceName = "" then types
  else
    match settings.namespaceStyle with
    | .block => [.block ("namespace " ++ d.head.namespaceName) types]
    | .fileScoped => .line ("namespace " ++ d.head.namespaceName ++ ";") :: .blank :: types

def code (members : List MemberText) : List Code :=
  .line "// <auto-generated/>" :: .line "#nullable enable" :: .blank ::
    d.inNamespace settings (nested (separated members) d.chain)

theorem writeMember_eq_run (m : MemberText) (w : Writer) : writeMember w m = w.run (Code.stepsAll m.code) := rfl

theorem writeMembers_cons_cons (m m' : MemberText) (ms : List MemberText) (w : Writer) :
    writeMembers w (m :: m' :: ms) = writeMembers (writeMember w m).blank (m' :: ms) := by
  rw [writeMembers, writeMembers, List.foldl_cons]

theorem writeMembers_eq_run (members : List MemberText) (w : Writer) :
    writeMembers w members = w.run (Code.stepsAll (separated members)) := by
  induction members generalizing w with
  | nil => rfl
  | cons m ms ih =>
      cases ms with
      | nil => exact writeMember_eq_run m w
      | cons m' ms =>
          rw [writeMembers_cons_cons, ih, separated, Code.stepsAll_append, Writer.run_append, ← writeMember_eq_run]
          rfl

theorem foldl_closeBlock_cons (h : TypeHead) (hs : List TypeHead) (w : Writer) :
    (h :: hs).foldl (fun w _ => w.closeBlock) w = (hs.foldl (fun w _ => w.closeBlock) w).closeBlock := by
  induction hs generalizing w with
  | nil => rfl
  | cons h' hs ih => exact ih w.closeBlock

/-- The types are opened from the outermost on and closed from the innermost on. -/
theorem foldl_blocks_eq_run (body : List Code) (hs : List TypeHead) (w : Writer) :
    hs.foldl (fun w _ => w.closeBlock)
        ((hs.foldl (fun w h => w.openBlock h.header) w).run (Code.stepsAll body)) =
      w.run (Code.stepsAll (nested body hs)) := by
  induction hs generalizing w with
  | nil => rfl
  | cons h hs ih =>
      rw [foldl_closeBlock_cons, List.foldl_cons, ih, nested, Code.stepsAll_singleton, Code.steps, Writer.run_cons,
        Writer.run_append]
      rfl

theorem namespace_eq_run (types : List Code) (w : Writer) :
    (if d.hasBlock settings then ((d.openNamespace settings w).run (Code.stepsAll types)).closeBlock
      else (d.openNamespace settings w).run (Code.stepsAll types)) =
      w.run (Code.stepsAll (d.inNamespace settings types)) := by
  by_cases hname : d.head.namespaceName = ""
  · have hblock : d.hasBlock settings = false := by simp [hasBlock, hname]
    simp [openNamespace, inNamespace, hblock, hname]
  · cases hstyle : settings.namespaceStyle with
    | fileScoped =>
        have hblock : d.hasBlock settings = false := by simp [hasBlock, hstyle]
        simp only [openNamespace, inNamespace, hblock, hname, hstyle, String.isEmpty_iff, Bool.false_eq_true, if_false]
        rfl
    | block =>
        have hblock : d.hasBlock settings = true := by simp [hasBlock, hname, hstyle]
        simp only [openNamespace, inNamespace, hblock, hname, hstyle, if_true, if_false, Code.stepsAll_singleton,
          Code.steps, Writer.run_cons, Writer.run_append]
        rfl

theorem write_eq_run (members : List MemberText) :
    d.write settings members = Writer.run {} (Code.stepsAll (d.code settings members)) := by
  have hblocks := foldl_blocks_eq_run (separated members) d.chain
  simp only [← writeMembers_eq_run] at hblocks
  simp only [write, hblocks, namespace_eq_run]
  rfl

theorem write_eq (members : List MemberText) :
    d.write settings members = { text := Code.textAll 0 (d.code settings members), depth := 0 } := by
  rw [write_eq_run, Writer.run_stepsAll, String.empty_append]

theorem emit_eq_ok_iff {file : GeneratedUnit} :
    d.emit settings = .ok file ↔
      ∃ members, List.Forall₂ (fun m text => m.emit settings = .ok text) d.members members ∧
        file = { outputKey := d.outputKey settings, text := Code.textAll 0 (d.code settings members) } := by
  simp only [← mapM_eq_ok_iff, emit, write_eq]
  cases hmembers : d.members.mapM fun m => m.emit settings with
  | error failure => exact ⟨nofun, nofun⟩
  | ok members =>
      constructor
      · intro h
        cases h
        exact ⟨members, rfl, rfl⟩
      · rintro ⟨_, hsame, rfl⟩
        cases hsame
        rfl

end TypeDescriptor

namespace Sample

def crate : TypeDescriptor :=
  { head := { name := "Crate", namespaceName := "Shop", kind := .recordClass }
    enclosing :=
      [{ name := "Hall", kind := .class, typeParameters := ["K", "V"] }, { name := "Depot", kind := .struct }]
    members :=
      [{ property := "Id", typeText := "int", tag := 1 },
        { property := "Lines", shape := .lazySequence, element0 := some "int", isInitOnly := true, tag := 2 }]
    claimed := .ofList [1, 2] }

def crateLines : List String :=
  ["// <auto-generated/>", "#nullable enable", "", "namespace Shop", "\x7b", "    partial struct Depot", "    \x7b",
    "        partial class Hall<K, V>", "        \x7b", "            partial record class Crate", "            \x7b",
    "                [global::ProtoBuf.ProtoMember(1)]",
    "                private int ProtoId \x7b get => Id; set => Id = value; \x7d", "",
    "                [global::ProtoBuf.ProtoMember(2)]",
    "                private bool ProtoIsEmptyLines \x7b get => Lines != null && " ++
      "!global::System.Linq.Enumerable.Any(Lines); init \x7b if (value) Lines = " ++
      "global::System.Linq.Enumerable.Empty<int>(); \x7d \x7d",
    "            \x7d", "        \x7d", "    \x7d", "\x7d", ""]

end Sample

namespace TypeDescriptor

/-- A generated file holds its code as it is nested, once all members have a text. What the writer does for it is to
write the nested code, where every block is closed and none that is not open. -/
theorem emit_lays_out_code (d : TypeDescriptor) (settings : Settings) :
    (∀ file, d.emit settings = .ok file ↔
      ∃ members, List.Forall₂ (fun m text => m.emit settings = .ok text) d.members members ∧
        file = { outputKey := d.outputKey settings, text := Code.textAll 0 (d.code settings members) }) ∧
    ∀ members,
      d.write settings members = Writer.run {} (Code.stepsAll (d.code settings members)) ∧
      (d.write settings members).depth = 0 ∧
      Writer.ClosesOpen {} (Code.stepsAll (d.code settings members)) := by
  refine ⟨fun file => d.emit_eq_ok_iff settings, fun members => ⟨d.write_eq_run settings members, ?_,
    Writer.closesOpen_stepsAll _ _⟩⟩
  rw [write_eq]

theorem emit_lays_out_code_crate :
    Sample.crate.emit { namespaceStyle := .block } =
      .ok { outputKey := "ProtoShop.Depot.Hall`2.Crate.g.cs", text := String.intercalate "\n" Sample.crateLines } := by
  obtain ⟨hemit, -⟩ := emit_lays_out_code Sample.crate { namespaceStyle := .block }
  exact (hemit _).mpr ⟨_, .cons rfl (.cons rfl .nil), by decide +kernel⟩

end TypeDescriptor

end WireShadow
