import WireShadow.Command.Work
import WireShadow.Proofs.FileTree

namespace WireShadow.Command

def Work.on {α : Type} (work : Work (StateM FileTree) α) (p : Printed) (t : FileTree) :
    (Except CommandFault α × Printed) × FileTree :=
  work p t

namespace Work

variable {α β : Type} {work : Work (StateM FileTree) α} {p p' : Printed} {t t' : FileTree}

theorem on_bind_ok {a : α} (h : work.on p t = ((.ok a, p'), t')) (next : α → Work (StateM FileTree) β) :
    (work >>= next).on p t = (next a).on p' t' := by
  change ExceptT.bindCont next (work.on p t).1.1 (work.on p t).1.2 (work.on p t).2 = _
  rw [h]
  rfl

theorem on_bind_error {fault : CommandFault} (h : work.on p t = ((.error fault, p'), t'))
    (next : α → Work (StateM FileTree) β) : (work >>= next).on p t = ((.error fault, p'), t') := by
  change ExceptT.bindCont next (work.on p t).1.1 (work.on p t).1.2 (work.on p t).2 = _
  rw [h]
  rfl

theorem on_onDisk (use : StateM FileTree α) (p : Printed) (t : FileTree) :
    on (onDisk use : Work (StateM FileTree) α) p t = ((.ok (use t).1, p), (use t).2) := rfl

end Work

def writeFile (directory : String) (file : GeneratedUnit) : Work (StateM FileTree) Unit := do
  let path := Path.join directory file.outputKey
  orFault (.unwritable path) (← onDisk (Disk.write path file.text))

/-- Files are written one after the other, up to the first for which that fails. -/
inductive Writes (directory : String) : List GeneratedUnit → FileTree → Except CommandFault Unit → FileTree → Prop
  | done (t : FileTree) : Writes directory [] t (.ok ()) t
  | next {file : GeneratedUnit} {files : List GeneratedUnit} {t t' t'' : FileTree}
      {result : Except CommandFault Unit} :
      FileTree.write (Path.join directory file.outputKey) file.text t = (Except.ok (), t') →
      Writes directory files t' result t'' → Writes directory (file :: files) t result t''
  | fail {file : GeneratedUnit} (files : List GeneratedUnit) {t t' : FileTree} {fault : DiskFault} :
      FileTree.write (Path.join directory file.outputKey) file.text t = (Except.error fault, t') →
      Writes directory (file :: files) t (.error (.unwritable (Path.join directory file.outputKey) fault)) t'

variable {directory : String} {file : GeneratedUnit} {files : List GeneratedUnit} {p : Printed} {t t' : FileTree}

theorem on_writeFile_ok
    (h : FileTree.write (Path.join directory file.outputKey) file.text t = (Except.ok (), t')) :
    (writeFile directory file).on p t = ((.ok (), p), t') := by
  have hdisk := Work.on_onDisk (FileTree.write (Path.join directory file.outputKey) file.text) p t
  rw [h] at hdisk
  exact Work.on_bind_ok hdisk _

theorem on_writeFile_error {fault : DiskFault}
    (h : FileTree.write (Path.join directory file.outputKey) file.text t = (Except.error fault, t')) :
    (writeFile directory file).on p t =
      ((.error (.unwritable (Path.join directory file.outputKey) fault), p), t') := by
  have hdisk := Work.on_onDisk (FileTree.write (Path.join directory file.outputKey) file.text) p t
  rw [h] at hdisk
  exact Work.on_bind_ok hdisk _

theorem exists_writes_forM (directory : String) (files : List GeneratedUnit) (p : Printed) (t : FileTree) :
    ∃ result t', Work.on (List.forM (m := Work (StateM FileTree)) files (writeFile directory)) p t =
      ((result, p), t') ∧ Writes directory files t result t' := by
  induction files generalizing t with
  | nil => exact ⟨_, _, rfl, .done t⟩
  | cons file files ih =>
      cases hwrite : FileTree.write (Path.join directory file.outputKey) file.text t with
      | mk written t' =>
          cases written with
          | error fault => exact ⟨_, _, Work.on_bind_error (on_writeFile_error hwrite) _, .fail files hwrite⟩
          | ok u =>
              obtain ⟨result, t'', hrest, hwrites⟩ := ih t'
              exact ⟨result, t'', (Work.on_bind_ok (on_writeFile_ok hwrite) _).trans hrest, .next hwrite hwrites⟩

def withDirectory (t : FileTree) (directory : String) : FileTree :=
  ((Disk.makeDirectories directory : StateM FileTree (Except DiskFault Unit)) t).2

theorem on_writeUnits (directory : String) (files : List GeneratedUnit) (p : Printed) (t : FileTree) :
    ∃ result t', (writeUnits directory files : Work (StateM FileTree) Unit).on p t = ((result, p), t') ∧
      ((∃ fault, result = .error fault ∧ t' = withDirectory t directory) ∨
        Writes directory files (withDirectory t directory) result t') := by
  have hdisk := Work.on_onDisk (Disk.makeDirectories directory) p t
  rw [withDirectory]
  generalize (Disk.makeDirectories directory : StateM FileTree (Except DiskFault Unit)) t = made at hdisk
  obtain ⟨result, made⟩ := made
  cases result with
  | error fault => exact ⟨_, _, Work.on_bind_ok hdisk _, .inl ⟨_, rfl, rfl⟩⟩
  | ok u =>
      obtain ⟨result, t', hrest, hwrites⟩ := exists_writes_forM directory files p made
      exact ⟨result, t', (Work.on_bind_ok hdisk _).trans hrest, .inr hwrites⟩

namespace Writes

variable {result : Except CommandFault Unit}

theorem read_of_not_mem (h : Writes directory files t result t')
    (hnames : ∀ file ∈ files, Path.IsName file.outputKey) {key : String} (hkey : Path.IsName key)
    (hne : key ∉ files.map (·.outputKey)) (text : String) :
    t'.read (Path.join directory key) = .ok text ↔ t.read (Path.join directory key) = .ok text := by
  induction h with
  | done => exact Iff.rfl
  | fail _ hwrite =>
      have hname := hnames _ List.mem_cons_self
      have hfirst : key ≠ _ := fun heq => hne (List.mem_map.mpr ⟨_, List.mem_cons_self, heq.symm⟩)
      exact (FileTree.wrote_of_write (Path.endsOpen_join hname) hwrite).read_of_ne hname hkey hfirst.symm text
  | next hwrite _ ih =>
      obtain ⟨hname, hnames⟩ := List.forall_mem_cons.mp hnames
      rw [List.map_cons, List.mem_cons, not_or] at hne
      have hwrote := FileTree.wrote_of_write (Path.endsOpen_join hname) hwrite
      exact (ih hnames hne.2).trans (hwrote.read_of_ne hname hkey (Ne.symm hne.1) text)

theorem read_of_mem (h : Writes directory files t result t') (hnames : ∀ file ∈ files, Path.IsName file.outputKey)
    (hkeys : (files.map (·.outputKey)).Nodup) (hresult : result = .ok ()) :
    ∀ file ∈ files, t'.read (Path.join directory file.outputKey) = .ok file.text := by
  induction h with
  | done => exact nofun
  | fail => cases hresult
  | next hwrite hwrites ih =>
      obtain ⟨hname, hrest⟩ := List.forall_mem_cons.mp hnames
      obtain ⟨hfresh, hkeys⟩ := List.nodup_cons.mp hkeys
      refine List.forall_mem_cons.mpr ⟨?_, ih hrest hkeys hresult⟩
      have hwrote := FileTree.wrote_of_write (Path.endsOpen_join hname) hwrite
      exact (hwrites.read_of_not_mem hrest hname hfresh _).mpr hwrote.read_self

end Writes

/-- In a directory that files are written to, no file takes the place of another: once all are written, each holds
its own text. -/
def WritesApart (directory : String) (files : List GeneratedUnit) : Prop :=
  ∀ p t, ∃ result t', (writeUnits directory files : Work (StateM FileTree) Unit).on p t = ((result, p), t') ∧
    (result = .ok () → ∀ file ∈ files, t'.read (Path.join directory file.outputKey) = .ok file.text)

theorem writesApart_of_nodup (hnames : ∀ file ∈ files, Path.IsName file.outputKey)
    (hkeys : (files.map (·.outputKey)).Nodup) (directory : String) : WritesApart directory files := by
  intro p t
  obtain ⟨result, t', hrun, ⟨fault, rfl, rfl⟩ | hwrites⟩ := on_writeUnits directory files p t
  · exact ⟨_, _, hrun, nofun⟩
  · exact ⟨_, _, hrun, hwrites.read_of_mem hnames hkeys⟩

end WireShadow.Command
