import Mathlib.Data.List.Forall2
import WireShadow.Json.Tree
import WireShadow.Json.Value

namespace WireShadow.Json

def Gap (cs : List Char) : Prop := ∀ c ∈ cs, Tree.isSpace c = true

theorem gap_nil : Gap [] := fun _ h => absurd h List.not_mem_nil

theorem gap_blank : Gap [' '] := by
  intro c hc
  rw [List.mem_singleton.mp hc]
  rfl

namespace Value

theorem gap_newline (depth : Nat) : Gap (newline depth) := by
  intro c hc
  rcases List.mem_cons.mp hc with rfl | hc
  · rfl
  · rw [List.eq_of_mem_replicate hc]
    rfl

mutual

/-- The ways to write a value. Its parts may stand apart, but each string, number and word has one form. -/
inductive SpelledAs : Value → List Char → Prop
  | null : SpelledAs null "null".toList
  | bool (b : Bool) : SpelledAs (bool b) (wordText b)
  | integer (n : Int) : SpelledAs (integer n) (integerText n)
  | string (s : String) : SpelledAs (string s) (writeText s)
  | noItems {gap : List Char} (hgap : Gap gap) : SpelledAs (array []) ('[' :: (gap ++ [']']))
  | array {items : List Value} {cs : List Char} (h : ItemsSpelledAs items cs) :
      SpelledAs (array items) ('[' :: (cs ++ [']']))
  | noMembers {gap : List Char} (hgap : Gap gap) : SpelledAs (object []) ('\x7b' :: (gap ++ ['\x7d']))
  | object {members : List (String × Value)} {cs : List Char} (h : MembersSpelledAs members cs) :
      SpelledAs (object members) ('\x7b' :: (cs ++ ['\x7d']))

inductive ItemsSpelledAs : List Value → List Char → Prop
  | last {item : Value} {before cs behind : List Char} (hbefore : Gap before) (h : SpelledAs item cs)
      (hbehind : Gap behind) : ItemsSpelledAs [item] (before ++ (cs ++ behind))
  | cons {item : Value} {items : List Value} {before cs behind ds : List Char} (hbefore : Gap before)
      (h : SpelledAs item cs) (hbehind : Gap behind) (hitems : ItemsSpelledAs items ds) :
      ItemsSpelledAs (item :: items) (before ++ (cs ++ (behind ++ ',' :: ds)))

inductive MemberSpelledAs : String × Value → List Char → Prop
  | mk {key : String} {value : Value} {gap gap' cs : List Char} (hgap : Gap gap) (hgap' : Gap gap')
      (h : SpelledAs value cs) : MemberSpelledAs (key, value) (writeText key ++ (gap ++ ':' :: (gap' ++ cs)))

inductive MembersSpelledAs : List (String × Value) → List Char → Prop
  | last {member : String × Value} {before cs behind : List Char} (hbefore : Gap before)
      (h : MemberSpelledAs member cs) (hbehind : Gap behind) :
      MembersSpelledAs [member] (before ++ (cs ++ behind))
  | cons {member : String × Value} {members : List (String × Value)} {before cs behind ds : List Char}
      (hbefore : Gap before) (h : MemberSpelledAs member cs) (hbehind : Gap behind)
      (hmembers : MembersSpelledAs members ds) :
      MembersSpelledAs (member :: members) (before ++ (cs ++ (behind ++ ',' :: ds)))

end

section Join

variable {gap gap' : List Char}

theorem join_cons_cons (separator cs ds : List Char) (rest : List (List Char)) :
    join separator (cs :: ds :: rest) = cs ++ (separator ++ join separator (ds :: rest)) :=
  List.append_assoc cs separator _

/-- Items and members are joined in the same way: with the comma right behind a part and the blanks before the
next one. -/
theorem spelled_join {α : Type} {Part : α → List Char → Prop} {Parts : List α → List Char → Prop}
    (hlast : ∀ {a cs}, Part a cs → Parts [a] (gap ++ (cs ++ gap')))
    (hcons : ∀ {a as cs ds}, Part a cs → Parts as ds → Parts (a :: as) (gap ++ (cs ++ ',' :: ds)))
    {a : α} {as : List α} {cs : List Char} {texts : List (List Char)} (h : Part a cs)
    (hrest : List.Forall₂ Part as texts) :
    Parts (a :: as) (gap ++ (join (',' :: gap) (cs :: texts) ++ gap')) := by
  induction hrest generalizing a cs with
  | nil => exact hlast h
  | cons hnext _ ih =>
      rw [join_cons_cons, List.append_assoc, List.append_assoc]
      exact hcons h (ih hnext)

theorem itemsSpelledAs_join (hgap : Gap gap) (hgap' : Gap gap') {item : Value} {items : List Value}
    {cs : List Char} {texts : List (List Char)} (h : SpelledAs item cs)
    (hitems : List.Forall₂ SpelledAs items texts) :
    ItemsSpelledAs (item :: items) (gap ++ (join (',' :: gap) (cs :: texts) ++ gap')) :=
  spelled_join (fun h => .last hgap h hgap') (fun h hitems => .cons hgap h gap_nil hitems) h hitems

theorem membersSpelledAs_join (hgap : Gap gap) (hgap' : Gap gap') {member : String × Value}
    {members : List (String × Value)} {cs : List Char} {texts : List (List Char)} (h : MemberSpelledAs member cs)
    (hmembers : List.Forall₂ MemberSpelledAs members texts) :
    MembersSpelledAs (member :: members) (gap ++ (join (',' :: gap) (cs :: texts) ++ gap')) :=
  spelled_join (fun h => .last hgap h hgap') (fun h hmembers => .cons hgap h gap_nil hmembers) h hmembers

theorem block_cons (opening closing : Char) (depth : Nat) (cs : List Char) (texts : List (List Char)) :
    block opening closing depth (cs :: texts) =
      opening :: ((newline (depth + 1) ++ (join (',' :: newline (depth + 1)) (cs :: texts) ++ newline depth)) ++
        [closing]) := by
  simp [block]

end Join

mutual

theorem spelledAs_compactChars : (v : Value) → v.SpelledAs v.compactChars
  | .null => .null
  | .bool b => .bool b
  | .integer n => .integer n
  | .string s => .string s
  | .array [] => .noItems gap_nil
  | .array (item :: items) => by
      have hitems := itemsSpelledAs_join gap_nil gap_nil (spelledAs_compactChars item) (forall₂_compactItems items)
      rw [List.nil_append, List.append_nil] at hitems
      exact .array hitems
  | .object [] => .noMembers gap_nil
  | .object ((key, value) :: members) => by
      have hmember : MemberSpelledAs (key, value) (writeText key ++ ':' :: value.compactChars) :=
        .mk gap_nil gap_nil (spelledAs_compactChars value)
      have hmembers := membersSpelledAs_join gap_nil gap_nil hmember (forall₂_compactMembers members)
      rw [List.nil_append, List.append_nil] at hmembers
      exact .object hmembers

theorem forall₂_compactItems : (items : List Value) → List.Forall₂ SpelledAs items (compactItems items)
  | [] => .nil
  | item :: items => .cons (spelledAs_compactChars item) (forall₂_compactItems items)

theorem forall₂_compactMembers :
    (members : List (String × Value)) → List.Forall₂ MemberSpelledAs members (compactMembers members)
  | [] => .nil
  | (_, value) :: members =>
    .cons (.mk gap_nil gap_nil (spelledAs_compactChars value)) (forall₂_compactMembers members)

end

mutual

theorem spelledAs_prettyChars (depth : Nat) : (v : Value) → v.SpelledAs (v.prettyChars depth)
  | .null => .null
  | .bool b => .bool b
  | .integer n => .integer n
  | .string s => .string s
  | .array [] => .noItems gap_nil
  | .array (item :: items) => by
      rw [prettyChars, prettyItems, block_cons]
      exact .array (itemsSpelledAs_join (gap_newline _) (gap_newline _) (spelledAs_prettyChars (depth + 1) item)
        (forall₂_prettyItems (depth + 1) items))
  | .object [] => .noMembers gap_nil
  | .object ((_, value) :: members) => by
      rw [prettyChars, prettyMembers, block_cons]
      exact .object (membersSpelledAs_join (gap_newline _) (gap_newline _)
        (.mk gap_nil gap_blank (spelledAs_prettyChars (depth + 1) value))
        (forall₂_prettyMembers (depth + 1) members))

theorem forall₂_prettyItems (depth : Nat) :
    (items : List Value) → List.Forall₂ SpelledAs items (prettyItems depth items)
  | [] => .nil
  | item :: items => .cons (spelledAs_prettyChars depth item) (forall₂_prettyItems depth items)

theorem forall₂_prettyMembers (depth : Nat) :
    (members : List (String × Value)) → List.Forall₂ MemberSpelledAs members (prettyMembers depth members)
  | [] => .nil
  | (_, value) :: members =>
    .cons (.mk gap_nil gap_blank (spelledAs_prettyChars depth value)) (forall₂_prettyMembers depth members)

end

theorem spelledAs_compact (v : Value) : v.SpelledAs v.compact.toList := by
  rw [compact, String.toList_ofList]
  exact v.spelledAs_compactChars

theorem spelledAs_pretty (v : Value) : v.SpelledAs v.pretty.toList := by
  rw [pretty, String.toList_ofList]
  exact v.spelledAs_prettyChars 0

end Value

end WireShadow.Json
