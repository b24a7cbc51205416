import WireShadow.Declaration.Reading
import WireShadow.Declaration.Writing
import WireShadow.Proofs.Scanning

namespace WireShadow.Json

open Data

namespace Value

mutual

def depth : Value → Nat
  | array items => itemsDepth items + 1
  | object members => membersDepth members + 1
  | null | bool _ | integer _ | string _ => 0

def itemsDepth : List Value → Nat
  | [] => 0
  | item :: items => max item.depth (itemsDepth items)

def membersDepth : List (String × Value) → Nat
  | [] => 0
  | (_, value) :: members => max value.depth (membersDepth members)

end

theorem depth_le_of_mem_items {items : List Value} {level : Nat} (h : (array items).depth ≤ level + 1) :
    ∀ item ∈ items, item.depth ≤ level := by
  rw [depth, Nat.succ_le_succ_iff] at h
  induction items with
  | nil => exact fun _ h => absurd h List.not_mem_nil
  | cons item items ih =>
      obtain ⟨hitem, hitems⟩ := Nat.max_le.mp h
      exact List.forall_mem_cons.mpr ⟨hitem, ih hitems⟩

theorem depth_le_of_mem_members {members : List (String × Value)} {level : Nat}
    (h : (object members).depth ≤ level + 1) : ∀ member ∈ members, member.2.depth ≤ level := by
  rw [depth, Nat.succ_le_succ_iff] at h
  induction members with
  | nil => exact fun _ h => absurd h List.not_mem_nil
  | cons member members ih =>
      obtain ⟨hmember, hmembers⟩ := Nat.max_le.mp h
      exact List.forall_mem_cons.mpr ⟨hmember, ih hmembers⟩

end Value

namespace Decode

open Value

variable {α τ : Type}

/-- With so many levels left, what is written of some data is read as this data. -/
def ReadsBack (read : Decoder α) (write : α → Value) (level : Nat) : Prop :=
  ∀ a, (write a).depth ≤ level → read level (write a).tree = .ok a

theorem int64_integer (n : Int64) : int64 (integer n.toInt).tree = .ok n := by
  have hlow : Int64.minValue.toInt ≤ n.toInt := n.minValue_le_toInt
  have hhigh : n.toInt ≤ Int64.maxValue.toInt := n.toInt_le
  have hvalue := Numeral.value_ofInt hlow (by
    have : Int64.maxValue.toInt < UInt64.size := by decide
    omega)
  simp only [tree, hvalue, int64, hlow, hhigh, and_self, if_true, Int64.ofInt_toInt]

theorem uint32_integer (n : UInt32) : uint32 (integer n.toNat).tree = .ok n := by
  have hlt : n.toNat < UInt32.size := n.toNat_lt_size
  have hlow : Int64.minValue.toInt ≤ (n.toNat : Int) := by
    have : Int64.minValue.toInt ≤ 0 := by decide
    omega
  have hvalue := Numeral.value_ofInt hlow (by
    have : UInt32.size < UInt64.size := by decide
    omega)
  simp only [tree, hvalue, uint32, Int.toNat_natCast, hlt, Int.natCast_nonneg, and_self, if_true,
    UInt32.ofNat_toNat]

theorem mapM_trees {read : Tree → Except Problem α} {write : α → Value} {as : List α}
    (h : ∀ a ∈ as, read (write a).tree = .ok a) : (trees (as.map write)).mapM read = .ok as := by
  induction as with
  | nil => rfl
  | cons a as ih =>
      obtain ⟨ha, has⟩ := List.forall_mem_cons.mp h
      rw [List.map_cons, trees, List.mapM_cons, ha, ih has]
      rfl

theorem readsBack_many {read : Decoder α} {write : α → Value} (level : Nat)
    (h : ∀ inner < level, ReadsBack read write inner) :
    ReadsBack (Declaration.many read) (fun as => .array (as.map write)) level := by
  intro as hdepth
  cases level with
  | zero => exact absurd hdepth (Nat.not_succ_le_zero _)
  | succ level =>
      have hitems : ∀ a ∈ as, read level (write a).tree = .ok a := fun a ha =>
        h level (Nat.lt_succ_self level) a (depth_le_of_mem_items hdepth _ (List.mem_map_of_mem ha))
      rw [Declaration.many, tree, list, mapM_trees hitems]
      rfl

theorem members_memberTrees {read : Tree → Except Problem α} {write : α → Value} {entries : List (String × α)}
    (h : ∀ e ∈ entries, read (write e.2).tree = .ok e.2) :
    members read (memberTrees (entries.map fun e => (e.1, write e.2))) = .ok entries := by
  induction entries with
  | nil => rfl
  | cons e entries ih =>
      obtain ⟨he, hentries⟩ := List.forall_mem_cons.mp h
      have hkey : key (.text ⟨.ok e.1, none⟩) = .ok e.1 := rfl
      rw [List.map_cons, memberTrees, members, hkey]
      change (read (write e.2).tree >>= _) = _
      rw [he]
      change (members read _ >>= _) = _
      rw [ih hentries]
      rfl

theorem readsBack_map {read : Decoder α} {write : α → Value} (level : Nat)
    (h : ∀ inner < level, ReadsBack read write inner) :
    ReadsBack (map read) (fun entries => .object (entries.map fun e => (e.1, write e.2))) level := by
  intro entries hdepth
  cases level with
  | zero => exact absurd hdepth (Nat.not_succ_le_zero _)
  | succ level =>
      have hentries : ∀ e ∈ entries, read level (write e.2).tree = .ok e.2 := fun e he =>
        h level (Nat.lt_succ_self level) e.2 (depth_le_of_mem_members hdepth _ (List.mem_map_of_mem he))
      rw [tree, map, members_memberTrees hentries]
      rfl

theorem readsBack_nullable {read : Decoder α} {write : α → Value} {level : Nat} (h : ReadsBack read write level)
    (hnull : ∀ a, (write a).tree ≠ .null) :
    ReadsBack (fun level => nullable (read level)) (orNull write) level := by
  intro o hdepth
  change nullable (read level) (orNull write o).tree = .ok o
  cases o with
  | none => rfl
  | some a =>
      rw [nullable.eq_def]
      split
      next htree => exact absurd htree (hnull a)
      next => exact congrArg (Except.map some) (h a hdepth)

theorem choice_plain {variants : List (String × Variant α)} {name : String} {a : α}
    (h : variants.lookup name = some (.plain a)) (level : Nat) :
    choice variants level (Value.string name).tree = .ok a := by
  have hname : findVariant variants name = .ok (.plain a) := by rw [findVariant, h]
  change (findVariant variants name >>= _) = _
  rw [hname]
  rfl

theorem choice_holding {variants : List (String × Variant α)} {name : String} {read : Tree → Except Problem α}
    {v : Value} {a : α} (h : variants.lookup name = some (.holding read)) (hread : read v.tree = .ok a)
    (level : Nat) : choice variants (level + 1) (object [(name, v)]).tree = .ok a := by
  have hname : findVariant variants name = .ok (.holding read) := by rw [findVariant, h]
  simp only [tree, memberTrees, choice]
  change (findVariant variants name >>= _) = _
  rw [hname]
  change (read v.tree >>= _) = _
  rw [hread]
  rfl

/-- The members of an object, with so many levels left, give all fields of a record in their order. -/
inductive Fills (level : Nat) : {τ : Type} → Fields Tree Problem τ → List (String × Value) → τ → Prop
  | nil : Fills level .nil [] ()
  | cons {α τ : Type} {name : String} {read : Tree → Except Problem α} {absent : Option α}
      {rest : Fields Tree Problem τ} {value : Value} {members : List (String × Value)} {a : α} {t : τ}
      (hread : value.depth ≤ level → read value.tree = .ok a) (h : Fills level rest members t) :
      Fills level (.cons name read absent none rest) ((name, value) :: members) (a, t)

theorem putMembers_cons {name : String} {read : Tree → Except Problem α} {absent given : Option α}
    {members : List (String × Value)} (hname : name ∉ members.map (·.1)) (rest : Fields Tree Problem τ) :
    putMembers (.cons name read absent given rest) (memberTrees members) =
      (putMembers rest (memberTrees members)).map (.cons name read absent given) := by
  induction members generalizing rest with
  | nil => rfl
  | cons member members ih =>
      obtain ⟨key, value⟩ := member
      obtain ⟨hkey, hname⟩ : name ≠ key ∧ name ∉ members.map (·.1) := by simpa using hname
      have hread : Decode.key (.text ⟨.ok key, none⟩) = .ok key := rfl
      simp only [memberTrees, putMembers, hread, Fields.put, if_neg hkey]
      cases rest.put (fun name => Problem.mismatch (.duplicateField name)) key value.tree with
      | none =>
          cases value.tree.skip with
          | error fault => rfl
          | ok _ => exact ih hname rest
      | some result =>
          cases result with
          | error problem => rfl
          | ok fields => exact ih hname fields

theorem exists_putMembers {level : Nat} {fields : Fields Tree Problem τ} {members : List (String × Value)} {t : τ}
    (h : Fills level fields members t) (hkeys : (members.map (·.1)).Nodup)
    (hdepth : membersDepth members ≤ level) (missing : String → Problem) :
    ∃ filled, putMembers fields (memberTrees members) = .ok filled ∧ filled.finish missing = .ok t := by
  induction h with
  | nil => exact ⟨.nil, rfl, rfl⟩
  | @cons α τ name read absent rest value members a t hread _ ih =>
      obtain ⟨hname, hkeys⟩ := List.nodup_cons.mp hkeys
      obtain ⟨hvalue, hmembers⟩ := Nat.max_le.mp hdepth
      obtain ⟨filled, hput, hfinish⟩ := ih hkeys hmembers
      -- The first member fills the first field, and by their keys the others leave it alone.
      refine ⟨.cons name read absent (some a) filled, ?_, ?_⟩
      · have hkey : Decode.key (.text ⟨.ok name, none⟩) = .ok name := rfl
        simp only [memberTrees, putMembers, hkey, Fields.put, if_true, hread hvalue, Except.map]
        rw [putMembers_cons hname, hput]
        rfl
      · simp [Fields.finish, hfinish, Except.map]

section Record

variable {level : Nat} {members : List (String × Value)} {t : τ} {k : τ → Except Problem α}

theorem record_bind (name : String) {fields : Fields Tree Problem τ} (h : Fills level fields members t)
    (hkeys : (members.map (·.1)).Nodup) (hdepth : (object members).depth ≤ level + 1) :
    record name (some fields) (object members).tree >>= k = k t := by
  obtain ⟨filled, hput, hfinish⟩ := exists_putMembers h hkeys (Nat.le_of_succ_le_succ hdepth)
    fun name => .mismatch (.missingField name)
  have hrecord : record name (some fields) (object members).tree = .ok t := by
    simp only [tree, record, hput]
    exact hfinish
  rw [hrecord]
  rfl

theorem struct_bind (name : String) {fields : Nat → Fields Tree Problem τ}
    (h : ∀ inner, Fills inner (fields inner) members t) (hkeys : (members.map (·.1)).Nodup)
    (hdepth : (object members).depth ≤ level) :
    Declaration.struct name fields level (object members).tree >>= k = k t := by
  cases level with
  | zero => exact absurd hdepth (Nat.not_succ_le_zero _)
  | succ level => exact record_bind name (h level) hkeys hdepth

end Record

theorem document_spelled {read : Decoder α} {write : α → Value} (h : ReadsBack read write levels) {a : α}
    (hdepth : (write a).depth ≤ levels) {text : String} (htext : (write a).SpelledAs text.toList) :
    document read text = .ok a := by
  rw [document, Tree.scan_spelled htext]
  change (read levels (write a).tree >>= _) = _
  rw [h a hdepth]
  rfl

end Decode

end WireShadow.Json
