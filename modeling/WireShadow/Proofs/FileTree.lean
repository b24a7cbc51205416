import WireShadow.Disk.FileTree
import WireShadow.Proofs.Lists

namespace WireShadow

namespace Path

variable {directory key : String}

def IsName (key : String) : Prop := '/' ∉ key.toList ∧ key ≠ ""

def front (directory : String) : List String :=
  if directory.isEmpty then [] else if endsOpen directory then (names directory).dropLast else names directory

theorem names_of_not_mem (h : '/' ∉ key.toList) : names key = [key] := by
  have hsplit : key.toList.splitOnP (· == '/') = [key.toList] :=
    List.splitOnP_eq_singleton fun c hc => beq_eq_false_iff_ne.mpr fun heq => h (heq ▸ hc)
  rw [names, hsplit, List.map_singleton, String.ofList_toList]

theorem names_append_slash (path key : String) : names (path ++ "/" ++ key) = names path ++ names key := by
  have hsplit : (path.toList ++ '/' :: key.toList).splitOnP (· == '/') =
      path.toList.splitOnP (· == '/') ++ key.toList.splitOnP (· == '/') :=
    List.splitOnP_append_cons _ _ rfl
  rw [names, String.toList_append, String.toList_append, List.append_assoc]
  exact (congrArg (List.map String.ofList) hsplit).trans List.map_append

theorem isAbsolute_of_not_mem (h : '/' ∉ key.toList) : isAbsolute key = false :=
  beq_eq_false_iff_ne.mpr fun hhead => h (List.mem_of_head? hhead)

theorem eq_append_slash (h : endsOpen directory = true) : ∃ path, directory = path ++ "/" := by
  obtain ⟨cs, hcs⟩ := List.getLast?_eq_some_iff.mp (beq_iff_eq.mp h)
  refine ⟨String.ofList cs, ?_⟩
  rw [← String.toList_inj, hcs, String.toList_append, String.toList_ofList]
  rfl

theorem names_join (h : '/' ∉ key.toList) : names (join directory key) = front directory ++ [key] := by
  rw [join, if_neg (by simp [isAbsolute_of_not_mem h]), front]
  by_cases hempty : directory.isEmpty = true
  · obtain rfl := String.isEmpty_iff.mp hempty
    exact (congrArg names String.empty_append).trans (names_of_not_mem h)
  · rw [Bool.not_eq_true] at hempty
    simp only [hempty, Bool.false_or, Bool.false_eq_true, if_false]
    by_cases hopen : endsOpen directory = true
    · obtain ⟨path, rfl⟩ := eq_append_slash hopen
      have hpath : names (path ++ "/") = names path ++ [""] := by
        rw [← String.append_empty (s := path ++ "/"), names_append_slash]
        rfl
      rw [if_pos hopen, if_pos hopen, names_append_slash, names_of_not_mem h, hpath, List.dropLast_concat]
    · rw [if_neg hopen, if_neg hopen, names_append_slash, names_of_not_mem h]

theorem isAbsolute_join (h : '/' ∉ key.toList) : isAbsolute (join directory key) = isAbsolute directory := by
  rw [join, if_neg (by simp [isAbsolute_of_not_mem h])]
  by_cases hempty : directory.isEmpty
  · obtain rfl := String.isEmpty_iff.mp hempty
    exact (congrArg isAbsolute String.empty_append).trans (isAbsolute_of_not_mem h)
  · have hne : directory.toList ≠ [] := fun hnil => hempty (by simp [String.toList_eq_nil_iff.mp hnil])
    obtain ⟨c, cs, hcs⟩ := List.exists_cons_of_ne_nil hne
    split <;> simp [isAbsolute, hcs]

theorem endsOpen_append (path : String) (hkey : key ≠ "") : endsOpen (path ++ key) = endsOpen key := by
  have hne : key.toList ≠ [] := fun hnil => hkey (String.toList_eq_nil_iff.mp hnil)
  rw [endsOpen, endsOpen, String.toList_append, List.getLast?_append, List.getLast?_eq_getLast_of_ne_nil hne,
    Option.some_or]

theorem endsOpen_join (h : IsName key) : endsOpen (join directory key) = false := by
  have hclosed : endsOpen key = false := beq_eq_false_iff_ne.mpr fun hslash => h.1 (List.mem_of_getLast? hslash)
  rw [join]
  split
  · exact hclosed
  · split <;> rw [endsOpen_append _ h.2, hclosed]

end Path

namespace FileTree

variable {t t' : FileTree} {place q : List String} {name key key' directory path text : String} {names : List String}

def enter (place : List String) (name : String) : List String :=
  if name == "" || name == "." then place else if name == ".." then place.dropLast else place ++ [name]

/-- The directories around a place are there. -/
def Grounded (t : FileTree) (place : List String) : Prop :=
  ∀ p, p <+: place → p ≠ place → t.get? p = some .directory

theorem directory_around (h : place <+: t.workingDirectory) : t.get? place = some .directory := by
  rw [get?, if_pos (List.isPrefixOf_iff_prefix.mpr h)]

theorem grounded_enter (hplace : t.get? place = some .directory) (h : t.Grounded place) (name : String) :
    t.Grounded (enter place name) := by
  have hup {p : List String} (hp : p <+: place) : t.get? p = some .directory := by
    by_cases heq : p = place
    · exact heq ▸ hplace
    · exact h p hp heq
  intro p hp hne
  unfold enter at hp hne
  split at hp
  · exact hup hp
  · split at hp
    · exact hup (hp.trans (List.dropLast_prefix place))
    · rcases List.prefix_concat_iff.mp hp with rfl | hp
      · simp_all
      · exact hup hp

theorem follow_of_directory (h : t.get? place = some .directory) :
    t.follow place (name :: names) =
      if 255 < name.utf8ByteSize then .error .nameTooLong else t.follow (enter place name) names := by
  rw [follow, h, enter]
  dsimp only
  by_cases hstay : (name == "" || name == ".") = true
  · have hshort : ¬255 < name.utf8ByteSize := by
      rw [Bool.or_eq_true, beq_iff_eq, beq_iff_eq] at hstay
      rcases hstay with rfl | rfl <;> decide
    rw [if_pos hstay, if_pos hstay, if_neg hshort]
  · by_cases hup : (name == "..") = true
    · have hshort : ¬255 < name.utf8ByteSize := by
        rw [beq_iff_eq.mp hup]
        decide
      rw [if_neg hstay, if_neg hstay, if_pos hup, if_pos hup, if_neg hshort]
    · rw [if_neg hstay, if_neg hstay, if_neg hup, if_neg hup]

theorem follow_cons_eq_ok_iff : t.follow place (name :: names) = .ok q ↔
    t.get? place = some .directory ∧ ¬255 < name.utf8ByteSize ∧ t.follow (enter place name) names = .ok q := by
  cases hentry : t.get? place with
  | none => simp [follow, hentry]
  | some entry =>
      cases entry with
      | file text => simp [follow, hentry]
      | directory =>
          rw [follow_of_directory hentry]
          by_cases hlong : 255 < name.utf8ByteSize <;> simp [hlong]

theorem follow_mono (hdirectory : ∀ p, t.get? p = some .directory → t'.get? p = some .directory)
    (h : t.follow place names = .ok q) : t'.follow place names = .ok q := by
  induction names generalizing place with
  | nil => exact h
  | cons name names ih =>
      obtain ⟨hentry, hshort, hnext⟩ := follow_cons_eq_ok_iff.mp h
      exact follow_cons_eq_ok_iff.mpr ⟨hdirectory place hentry, hshort, ih hnext⟩

theorem follow_concat (hplace : t.Grounded place) (h : t.follow place (names ++ [name]) = .ok q) :
    t.get? (names.foldl enter place) = some .directory ∧ t.Grounded (names.foldl enter place) ∧
      q = enter (names.foldl enter place) name := by
  induction names generalizing place with
  | nil =>
      obtain ⟨hentry, -, hnext⟩ := follow_cons_eq_ok_iff.mp h
      cases hnext
      exact ⟨hentry, hplace, rfl⟩
  | cons first names ih =>
      obtain ⟨hentry, -, hnext⟩ := follow_cons_eq_ok_iff.mp h
      exact ih (grounded_enter hentry hplace first) hnext

def start (t : FileTree) (path : String) : List String := if Path.isAbsolute path then [] else t.workingDirectory

theorem grounded_start (t : FileTree) (path : String) : t.Grounded (t.start path) := by
  intro p hp hne
  unfold start at hp hne
  split_ifs at hp hne
  · exact absurd (List.prefix_nil.mp hp) hne
  · exact directory_around hp

theorem follow_of_find (h : t.find path = .ok q) : t.follow (t.start path) (Path.names path) = .ok q := by
  unfold find at h
  split_ifs at h with hnul hempty hlong habsolute <;> simpa [start, habsolute] using h

theorem find_mono (hworking : t'.workingDirectory = t.workingDirectory)
    (hdirectory : ∀ p, t.get? p = some .directory → t'.get? p = some .directory) (h : t.find path = .ok q) :
    t'.find path = .ok q := by
  have hfollow := follow_mono hdirectory (follow_of_find h)
  unfold find at h ⊢
  split_ifs at h ⊢ with hnul hempty hlong habsolute <;> simpa [start, habsolute, hworking] using hfollow

theorem find_join (hkey : Path.IsName key) (h : t.find (Path.join directory key) = .ok q)
    (hentry : t.get? q ≠ some .directory) :
    q = (Path.front directory).foldl enter (t.start directory) ++ [key] := by
  have hfollow := follow_of_find h
  have hstart : t.start (Path.join directory key) = t.start directory := by
    rw [start, start, Path.isAbsolute_join hkey.1]
  rw [hstart, Path.names_join hkey.1] at hfollow
  obtain ⟨hplace, hground, rfl⟩ := follow_concat (grounded_start t directory) hfollow
  generalize (Path.front directory).foldl enter (t.start directory) = place at hplace hground hentry
  unfold enter at hentry ⊢
  split at hentry
  · exact absurd hplace hentry
  · split at hentry
    · refine absurd ?_ hentry
      by_cases hroot : place.dropLast = place
      · exact hroot.symm ▸ hplace
      · exact hground _ (List.dropLast_prefix place) hroot
    · simp_all

theorem get_put_of_ne {p : List String} (hne : p ≠ place) (file : Option String) :
    get? (t.put place file) p = t.get? p := by
  have hmiss : (p == place) = false := by simp [hne]
  rw [get?, get?, put]
  simp [List.lookup_append, lookup_filter_ne hne, List.lookup_cons, hmiss]

theorem get_put_self (h : t.get? place ≠ some .directory) (text : String) :
    get? (t.put place (some text)) place = some (.file text) := by
  have houtside : place.isPrefixOf t.workingDirectory = false := by
    rw [Bool.eq_false_iff]
    exact fun hprefix => h (directory_around (List.isPrefixOf_iff_prefix.mp hprefix))
  have hnone : (t.entries.filter (·.1 != place)).lookup place = none :=
    List.lookup_eq_none_iff.mpr fun entry hentry => bne_comm.trans (List.mem_filter.mp hentry).2
  rw [get?, put]
  simp [houtside, List.lookup_append, hnone]

theorem directory_put_iff (h : t.get? place ≠ some .directory) (text : String) (p : List String) :
    get? (t.put place (some text)) p = some .directory ↔ t.get? p = some .directory := by
  by_cases heq : p = place
  · subst heq
    simp [get_put_self h, h]
  · rw [get_put_of_ne heq]

theorem find_put_iff (h : t.get? place ≠ some .directory) (text : String) :
    (t.afterWrite.put place (some text)).find path = .ok q ↔ t.find path = .ok q :=
  ⟨find_mono rfl fun p => (directory_put_iff (t := t.afterWrite) h text p).mp,
    find_mono rfl fun p => (directory_put_iff (t := t.afterWrite) h text p).mpr⟩

theorem findNew_eq_find (t : FileTree) (h : Path.endsOpen path = false) : t.findNew path = t.find path := by
  have hkept : (path.toList.reverse.dropWhile (· == '/')).reverse = path.toList := by
    have hlast := beq_eq_false_iff_ne.mp h
    rw [List.getLast?_eq_head?_reverse] at hlast
    rw [List.reverse_eq_iff]
    cases hchars : path.toList.reverse with
    | nil => rfl
    | cons c cs =>
        rw [hchars, List.head?_cons] at hlast
        exact List.dropWhile_cons_of_neg (by simpa using hlast)
  rw [findNew]
  simp only [hkept, String.ofList_toList, ite_self]

theorem findFile_eq_ok (hopen : Path.endsOpen path = false) (h : t.findFile path = .ok place) :
    t.find path = .ok place ∧ t.get? place ≠ some .directory := by
  rw [findFile, findNew_eq_find t hopen] at h
  cases hfind : t.find path with
  | error fault => rw [hfind] at h; cases h
  | ok found =>
      rw [hfind] at h
      dsimp only [bind, Except.bind] at h
      cases hentry : t.get? found with
      | none =>
          simp only [hentry, hopen, Bool.false_eq_true, if_false] at h
          cases h
          exact ⟨rfl, by simp [hentry]⟩
      | some entry =>
          cases entry with
          | directory => rw [hentry] at h; cases h
          | file old =>
              simp only [hentry, hopen, Bool.false_eq_true, if_false] at h
              cases h
              exact ⟨rfl, by simp [hentry]⟩

/-- What a write makes of the files: nothing, or a file in a place where no directory is. The file holds the text
unless the write breaks off. -/
inductive Wrote (t : FileTree) (path text : String) : Except DiskFault Unit → FileTree → Prop
  | refused (fault : DiskFault) : Wrote t path text (.error fault) t
  | left {result : Except DiskFault Unit} {place : List String} {left : String} (hfind : t.find path = .ok place)
      (hentry : t.get? place ≠ some .directory) (htext : result = .ok () → left = text) :
      Wrote t path text result (t.afterWrite.put place (some left))

theorem wrote_of_write {result : Except DiskFault Unit} (hopen : Path.endsOpen path = false)
    (h : write path text t = (result, t')) : t.Wrote path text result t' := by
  rw [write] at h
  cases hfile : t.findFile path with
  | error fault =>
      rw [hfile] at h
      cases h
      exact .refused fault
  | ok place =>
      obtain ⟨hfind, hentry⟩ := findFile_eq_ok hopen hfile
      simp only [hfile] at h
      cases hbreak : t.breaks.head?.join with
      | none =>
          rw [hbreak] at h
          cases h
          exact .left hfind hentry fun _ => rfl
      | some broken =>
          rw [hbreak] at h
          cases h
          exact .left hfind hentry nofun

theorem read_eq_ok_iff :
    t.read path = .ok text ↔ ∃ place, t.find path = .ok place ∧ t.get? place = some (.file text) := by
  rw [read]
  cases hfind : t.find path with
  | error fault => simp [bind, Except.bind]
  | ok place =>
      dsimp only [bind, Except.bind]
      cases hentry : t.get? place with
      | none => simp [hentry]
      | some entry => cases entry <;> simp [hentry, pure, Except.pure]

theorem Wrote.read_self (h : t.Wrote path text (.ok ()) t') : t'.read path = .ok text := by
  cases h with
  | @left _ place left hfind hentry htext =>
      obtain rfl := htext rfl
      exact read_eq_ok_iff.mpr ⟨place, (find_put_iff hentry left).mpr hfind, get_put_self hentry left⟩

/-- Writing to a directory leaves the files of other names there as they are, also if the write breaks off. -/
theorem Wrote.read_of_ne {result : Except DiskFault Unit} (h : t.Wrote (Path.join directory key) text result t')
    (hkey : Path.IsName key) (hkey' : Path.IsName key') (hne : key ≠ key') (text' : String) :
    t'.read (Path.join directory key') = .ok text' ↔ t.read (Path.join directory key') = .ok text' := by
  cases h with
  | refused fault => exact Iff.rfl
  | @left _ place left hfind hentry htext =>
      have hplace := find_join hkey hfind hentry
      have hother {place' : List String}
          (hplace' : place' = (Path.front directory).foldl enter (t.start directory) ++ [key']) :
          get? (t.afterWrite.put place (some left)) place' = t.get? place' := by
        refine get_put_of_ne (fun heq => hne ?_) _
        simpa using hplace.symm.trans (heq.symm.trans hplace')
      rw [read_eq_ok_iff, read_eq_ok_iff]
      constructor
      · rintro ⟨place', hfind', hfile'⟩
        have hplace' := find_join hkey' hfind' (by simp [hfile'])
        exact ⟨place', (find_put_iff hentry left).mp hfind', hother hplace' ▸ hfile'⟩
      · rintro ⟨place', hfind', hfile'⟩
        have hplace' := find_join hkey' hfind' (by simp [hfile'])
        exact ⟨place', (find_put_iff hentry left).mpr hfind', (hother hplace').trans hfile'⟩

end FileTree

end WireShadow
