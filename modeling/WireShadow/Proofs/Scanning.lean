import Mathlib.Data.List.DropRight
import WireShadow.Proofs.Spelling

namespace WireShadow.Json

theorem codeUnit_control {n : Nat} (h : n < 0x20) (cs : List Char) :
    codeUnit ('0' :: '0' :: Nat.digitChar (n / 16) :: Nat.digitChar (n % 16) :: cs) = .ok n := by
  have hdigits : ∀ n < 0x20, ['0', '0', Nat.digitChar (n / 16), Nat.digitChar (n % 16)].mapM hexDigit? =
      some [0, 0, n / 16, n % 16] := by decide +kernel
  simp only [codeUnit, List.take_succ_cons, List.take_zero, hdigits n h]
  congr 1
  omega

theorem writeChar_cases (c : Char) :
    (∃ letter, writeChar c = ['\\', letter] ∧ letter ≠ 'u' ∧ shortEscapes.lookup letter = some c) ∨
      (c.toNat < 0x20 ∧ writeChar c =
        ['\\', 'u', '0', '0', Nat.digitChar (c.toNat / 16), Nat.digitChar (c.toNat % 16)]) ∨
      (isControl c = false ∧ writeChar c = [c] ∧ c ≠ '"' ∧ c ≠ '\\') := by
  have hletters : ∀ e ∈ shortEscapes, e.1 ≠ '/' → e.1 ≠ 'u' ∧ shortEscapes.lookup e.1 = some e.2 := by
    decide
  rw [writeChar]
  split
  · next letter c' h =>
      obtain ⟨rfl, hslash⟩ : c' = c ∧ letter ≠ '/' := by simpa using List.find?_some h
      obtain ⟨hu, hlookup⟩ := hletters _ (List.mem_of_find?_eq_some h) hslash
      exact .inl ⟨letter, rfl, hu, hlookup⟩
  · next h =>
      have hnone := List.find?_eq_none.mp h
      have hquote : c ≠ '"' := by
        rintro rfl
        exact hnone ('"', '"') (by decide) (by decide)
      have hslash : c ≠ '\\' := by
        rintro rfl
        exact hnone ('\\', '\\') (by decide) (by decide)
      cases hcontrol : isControl c with
      | true => exact .inr (.inl ⟨by simpa [isControl] using hcontrol, rfl⟩)
      | false => exact .inr (.inr ⟨rfl, rfl, hquote, hslash⟩)

theorem readText_plain {c : Char} (hcontrol : isControl c = false) (hquote : c ≠ '"') (hslash : c ≠ '\\')
    (read cs : List Char) : readText read (c :: cs) = readText (c :: read) cs := by
  rw [readText, hcontrol]
  · rfl
  · exact hquote
  · exact fun h => absurd h hslash
  · exact fun _ h => absurd h hslash
  · exact fun _ _ h => absurd h hslash

theorem skipText_plain {c : Char} (hcontrol : isControl c = false) (hquote : c ≠ '"') (hslash : c ≠ '\\')
    (cs : List Char) : skipText (c :: cs) = skipText cs := by
  rw [skipText, hcontrol]
  · rfl
  · exact hquote
  · exact fun h => absurd h hslash
  · exact fun _ h => absurd h hslash
  · exact fun _ _ h => absurd h hslash

theorem readText_writeChar (c : Char) (read cs : List Char) :
    readText read (writeChar c ++ cs) = readText (c :: read) cs := by
  rcases writeChar_cases c with ⟨letter, h, hu, hlookup⟩ | ⟨hlt, h⟩ | ⟨hcontrol, h, hquote, hslash⟩
  · rw [h, List.cons_append, List.singleton_append, readText, hlookup]
    exact hu
  · have hlow : isLowSurrogate c.toNat = false := by
      simp only [isLowSurrogate, Bool.and_eq_false_iff, decide_eq_false_iff_not]
      omega
    have hhigh : isHighSurrogate c.toNat = false := by
      simp only [isHighSurrogate, Bool.and_eq_false_iff, decide_eq_false_iff_not]
      omega
    simp only [h, List.cons_append, List.nil_append]
    rw [readText, codeUnit_control hlt]
    simp only [hlow, hhigh, Bool.false_eq_true, if_false, Char.ofNat_toNat]
    rfl
  · rw [h, List.singleton_append, readText_plain hcontrol hquote hslash]

theorem skipText_writeChar (c : Char) (cs : List Char) : skipText (writeChar c ++ cs) = skipText cs := by
  rcases writeChar_cases c with ⟨letter, h, hu, hlookup⟩ | ⟨hlt, h⟩ | ⟨hcontrol, h, hquote, hslash⟩
  · rw [h, List.cons_append, List.singleton_append, skipText, hlookup]
    · rfl
    · exact hu
  · simp only [h, List.cons_append, List.nil_append]
    rw [skipText, codeUnit_control hlt]
    rfl
  · rw [h, List.singleton_append, skipText_plain hcontrol hquote hslash]

theorem readText_writeText (cs read rest : List Char) :
    readText read (cs.flatMap writeChar ++ '"' :: rest) = .ok (String.ofList (read.reverse ++ cs), rest) := by
  induction cs generalizing read with
  | nil => rw [List.flatMap_nil, List.nil_append, readText, List.append_nil]
  | cons c cs ih =>
      rw [List.flatMap_cons, List.append_assoc, readText_writeChar, ih, List.reverse_cons, List.append_assoc]
      rfl

theorem skipText_writeText (cs rest : List Char) :
    skipText (cs.flatMap writeChar ++ '"' :: rest) = .ok rest := by
  induction cs with
  | nil => rw [List.flatMap_nil, List.nil_append, skipText]
  | cons c cs ih => rw [List.flatMap_cons, List.append_assoc, skipText_writeChar, ih]

theorem writeText_append (s : String) (rest : List Char) :
    writeText s ++ rest = '"' :: (s.toList.flatMap writeChar ++ '"' :: rest) := by
  simp [writeText]

theorem scanText_writeText (s : String) (rest : List Char) :
    Tree.scanText (s.toList.flatMap writeChar ++ '"' :: rest) = (⟨.ok s, none⟩, some rest) := by
  rw [Tree.scanText, skipText_writeText, readText_writeText]
  simp [Except.map]

namespace Numeral

def EndsAt (rest : List Char) : Prop :=
  ∀ c ∈ rest.head?, c.isDigit = false ∧ c ≠ '.' ∧ c ≠ 'e' ∧ c ≠ 'E'

def ofInt : Int → Numeral
  | .ofNat n => { negative := false, whole := Nat.toDigits 10 n }
  | .negSucc n => { negative := true, whole := Nat.toDigits 10 (n + 1) }

theorem isDigit_toDigits {n : Nat} : ∀ c ∈ Nat.toDigits 10 n, c.isDigit = true := fun _ h =>
  Nat.isDigit_of_mem_toDigits (by decide) (by decide) h

theorem exists_digits (n : Nat) : ∃ d ds, Nat.toDigits 10 n = d :: ds ∧ d.isDigit = true := by
  obtain ⟨d, ds, hds⟩ := List.exists_cons_of_ne_nil (Nat.toDigits_ne_nil (b := 10) (n := n))
  refine ⟨d, ds, hds, isDigit_toDigits (n := n) d ?_⟩
  rw [hds]
  exact List.mem_cons_self

theorem head?_toDigits {n : Nat} (h : n ≠ 0) : (Nat.toDigits 10 n).head? ≠ some '0' := by
  have hdigits : ∀ m < 10, m ≠ 0 → Nat.digitChar m ≠ '0' := by decide
  induction n using Nat.strongRecOn with
  | ind n ih =>
      rw [Nat.toDigits_eq_if (by decide)]
      split
      · next hlt => simpa using hdigits n hlt h
      · next hge =>
          rw [List.head?_append_of_ne_nil _ Nat.toDigits_ne_nil]
          exact ih (n / 10) (by omega) (by omega)

theorem digits_append {ds rest : List Char} (h : ∀ c ∈ ds, c.isDigit = true) (hrest : EndsAt rest) :
    (ds ++ rest).takeWhile Char.isDigit = ds ∧ (ds ++ rest).dropWhile Char.isDigit = rest := by
  have hstop : rest.takeWhile Char.isDigit = [] ∧ rest.dropWhile Char.isDigit = rest := by
    cases rest with
    | nil => exact ⟨rfl, rfl⟩
    | cons c rest => simp [(hrest c rfl).1]
  rw [List.takeWhile_append_of_pos h, List.dropWhile_append_of_pos h, hstop.1, hstop.2, List.append_nil]
  exact ⟨rfl, rfl⟩

theorem someDigits_append {ds rest : List Char} (h : ∀ c ∈ ds, c.isDigit = true) (hne : ds ≠ [])
    (hrest : EndsAt rest) : someDigits (ds ++ rest) = .ok (ds, rest) := by
  obtain ⟨htake, hdrop⟩ := digits_append h hrest
  unfold someDigits
  rw [htake]
  cases ds with
  | nil => exact absurd rfl hne
  | cons d ds => exact congrArg (fun behind => Except.ok (d :: ds, behind)) hdrop

theorem readWhole_toDigits {n : Nat} {rest : List Char} (hrest : EndsAt rest) :
    readWhole (Nat.toDigits 10 n ++ rest) = .ok (Nat.toDigits 10 n, rest) := by
  rw [readWhole, someDigits_append isDigit_toDigits Nat.toDigits_ne_nil hrest]
  dsimp only [bind, Except.bind]
  split
  · next c ds hds =>
      by_cases hn : n = 0
      · simp [hn] at hds
      · exact absurd (by rw [hds]; rfl) (head?_toDigits hn)
  · rfl

theorem read_toDigits (negative : Bool) {n : Nat} {rest : List Char} (hrest : EndsAt rest) :
    read negative (Nat.toDigits 10 n ++ rest) = .ok ({ negative, whole := Nat.toDigits 10 n }, rest) := by
  have hfraction : readFraction rest = .ok ([], rest) := by
    cases rest with
    | nil => rfl
    | cons c rest =>
        rw [readFraction]
        rintro _ h
        exact (hrest c rfl).2.1 (List.cons.inj h).1
  have hexponent : readExponent rest = .ok (none, rest) := by
    cases rest with
    | nil => rfl
    | cons c rest =>
        obtain ⟨-, -, he, hE⟩ := hrest c rfl
        simp [readExponent, he, hE]
  rw [read, readWhole_toDigits hrest]
  change (readFraction rest >>= _) = _
  rw [hfraction]
  change (readExponent rest >>= _) = _
  rw [hexponent]
  rfl

/-- As long as the number fits into a word, so does every part of it on the way. -/
theorem gather_eq {n : Nat} {ds : List Char} (h : Nat.ofDigitChars 10 ds n < UInt64.size) :
    gather n ds = (Nat.ofDigitChars 10 ds n, 0) := by
  induction ds generalizing n with
  | nil => rfl
  | cons d ds ih =>
      rw [Nat.ofDigitChars_cons] at h ⊢
      have hle : 10 * n + digit d ≤ Nat.ofDigitChars 10 ds (10 * n + digit d) := by
        rw [Nat.ofDigitChars_eq_ofDigitChars_zero]
        exact Nat.le_add_right_of_le (Nat.le_mul_of_pos_left _ (Nat.pow_pos (by decide)))
      rw [gather, if_pos (Nat.lt_of_le_of_lt hle h)]
      exact ih h

theorem gather_toDigits {n : Nat} (h : n < UInt64.size) : gather 0 (Nat.toDigits 10 n) = (n, 0) := by
  rw [gather_eq, Nat.ofDigitChars_ten_toDigits]
  rwa [Nat.ofDigitChars_ten_toDigits]

theorem value_ofInt {n : Int} (hlow : Int64.minValue.toInt ≤ n) (hhigh : n < UInt64.size) :
    (ofInt n).value = .ok (.integer n) := by
  cases n with
  | ofNat n =>
      have hfits : n < UInt64.size := Int.ofNat_lt.mp hhigh
      simp [ofInt, value, gather_toDigits hfits]
  | negSucc n =>
      have hmin : Int64.minValue.toInt = -2 ^ 63 := by decide
      have hsize : UInt64.size = 2 ^ 64 := by decide
      have hfits : n + 1 < UInt64.size := by omega
      have hhalf : 2 * (n + 1) ≤ UInt64.size := by omega
      simp [ofInt, value, gather_toDigits hfits, hhalf]
      omega

end Numeral

namespace Value

mutual

def tree : Value → Tree
  | null => .null
  | bool b => .bool b
  | integer n => .number ⟨(Numeral.ofInt n).value, none⟩
  | string s => .string ⟨.ok s, none⟩
  | array items => .array (trees items) .closed
  | object members => .object (memberTrees members) .closed

def trees : List Value → List Tree
  | [] => []
  | item :: items => item.tree :: trees items

def memberTrees : List (String × Value) → List (Key × Tree)
  | [] => []
  | (key, value) :: members => (.text ⟨.ok key, none⟩, value.tree) :: memberTrees members

end

end Value

namespace Tree

open Value

section Gaps

variable {gap : List Char}

theorem skipSpaces_gap (h : Gap gap) (cs : List Char) : skipSpaces (gap ++ cs) = skipSpaces cs :=
  List.dropWhile_append_of_pos h

theorem skipSpaces_cons {c : Char} (h : isSpace c = false) (cs : List Char) : skipSpaces (c :: cs) = c :: cs :=
  List.dropWhile_cons_of_neg (by simp [h])

theorem skipSpaces_skipSpaces (cs : List Char) : skipSpaces (skipSpaces cs) = skipSpaces cs :=
  List.dropWhile_idempotent _ cs

theorem scanValue_skipSpaces (fuel : Nat) (cs : List Char) :
    scanValue fuel (skipSpaces cs) = scanValue fuel cs := by
  cases fuel with
  | zero => rfl
  | succ fuel => rw [scanValue, scanValue, skipSpaces_skipSpaces]

theorem scanItems_skipSpaces (fuel : Nat) (cs : List Char) :
    scanItems fuel (skipSpaces cs) = scanItems fuel cs := by
  cases fuel with
  | zero => rfl
  | succ fuel => rw [scanItems, scanItems, scanValue_skipSpaces]

theorem scanValue_gap (h : Gap gap) (fuel : Nat) (cs : List Char) :
    scanValue fuel (gap ++ cs) = scanValue fuel cs := by
  rw [← scanValue_skipSpaces, skipSpaces_gap h, scanValue_skipSpaces]

theorem isSpace_iff {c : Char} : isSpace c = true ↔ c ∈ [' ', '\n', '\t', '\r'] := by
  simp [isSpace, or_assoc]

theorem endsAt_gap (h : Gap gap) {c : Char} (hc : c ∈ [',', ']', '\x7d']) (cs : List Char) :
    Numeral.EndsAt (gap ++ c :: cs) := by
  have hends : ∀ d ∈ [',', ']', '\x7d'] ++ [' ', '\n', '\t', '\r'],
      d.isDigit = false ∧ d ≠ '.' ∧ d ≠ 'e' ∧ d ≠ 'E' := by simp
  intro d hd
  cases gap with
  | nil =>
      cases hd
      exact hends c (List.mem_append_left _ hc)
  | cons blank gap =>
      cases hd
      exact hends _ (List.mem_append_right _ (isSpace_iff.mp (h _ List.mem_cons_self)))

end Gaps

section Scalars

theorem ne_of_isDigit {c d : Char} (h : c.isDigit = true) (hd : d.isDigit = false) : c ≠ d := by
  rintro rfl
  rw [h] at hd
  cases hd

theorem isSpace_of_isDigit {c : Char} (h : c.isDigit = true) : isSpace c = false := by
  have hblanks : ∀ d ∈ [' ', '\n', '\t', '\r'], d.isDigit = false := by simp
  rw [Bool.eq_false_iff]
  exact fun hspace => ne_of_isDigit h (hblanks c (isSpace_iff.mp hspace)) rfl

theorem scanValue_flat {c : Char} (hspace : isSpace c = false) (hbracket : c ≠ '[') (hbrace : c ≠ '\x7b')
    (fuel : Nat) (cs : List Char) : scanValue (fuel + 1) (c :: cs) = scanFlat (c :: cs) := by
  rw [scanValue, skipSpaces_cons hspace]
  split
  · next h => exact absurd (List.cons.inj h).1 hbracket
  · next h => exact absurd (List.cons.inj h).1 hbrace
  · rfl

theorem scanFlat_digit {c : Char} (h : c.isDigit = true) (cs : List Char) :
    scanFlat (c :: cs) = scanNumber false (c :: cs) := by
  rw [scanFlat, if_pos h]
  all_goals exact ne_of_isDigit h (by decide)

theorem scanNumber_toDigits (negative : Bool) (n : Nat) {rest : List Char} (hrest : Numeral.EndsAt rest) :
    scanNumber negative (Nat.toDigits 10 n ++ rest) =
      (number ⟨Numeral.value { negative, whole := Nat.toDigits 10 n }, none⟩, some rest) := by
  rw [scanNumber, Numeral.read_toDigits negative hrest]

theorem scanValue_integer (n : Int) (fuel : Nat) {rest : List Char} (hrest : Numeral.EndsAt rest) :
    scanValue (fuel + 1) (integerText n ++ rest) = ((Value.integer n).tree, some rest) := by
  cases n with
  | ofNat n =>
      have hnumber := scanNumber_toDigits false n hrest
      obtain ⟨d, ds, hds, hd⟩ := Numeral.exists_digits n
      change scanValue (fuel + 1) (Nat.toDigits 10 n ++ rest) = _
      rw [hds, List.cons_append] at hnumber ⊢
      rw [scanValue_flat (isSpace_of_isDigit hd) (ne_of_isDigit hd (by decide)) (ne_of_isDigit hd (by decide)),
        scanFlat_digit hd, hnumber, tree, Numeral.ofInt, hds]
  | negSucc n =>
      change scanValue (fuel + 1) ('-' :: (Nat.toDigits 10 (n + 1) ++ rest)) = _
      rw [scanValue_flat rfl (by decide) (by decide), scanFlat, scanNumber_toDigits true _ hrest]
      rfl

theorem scanValue_string (s : String) (fuel : Nat) (rest : List Char) :
    scanValue (fuel + 1) (writeText s ++ rest) = ((Value.string s).tree, some rest) := by
  rw [writeText_append, scanValue_flat rfl (by decide) (by decide), scanFlat, scanString, scanText_writeText]
  rfl

end Scalars

def StartsApart (bracket : Char) (cs : List Char) : Prop := ∃ c ds, skipSpaces cs = c :: ds ∧ c ≠ bracket

section Steps

variable {fuel : Nat} {gap cs behind ds rest : List Char} {item : Tree} {items : List Tree} {member : Key × Tree}
  {members : List (Key × Tree)} {ending : Ending} {left : Option (List Char)} {wanted skipped : Fault}

theorem scanItems_last (hitem : scanValue fuel cs = (item, some (behind ++ ']' :: rest))) (hbehind : Gap behind) :
    scanItems (fuel + 1) cs = ([item], .closed, some rest) := by
  simp only [scanItems, hitem, skipSpaces_gap hbehind, skipSpaces_cons (c := ']') rfl]

theorem scanItems_cons (hitem : scanValue fuel cs = (item, some (behind ++ ',' :: ds))) (hbehind : Gap behind)
    (hstarts : StartsApart ']' ds) (hitems : scanItems fuel ds = (items, ending, left)) :
    scanItems (fuel + 1) cs = (item :: items, ending, left) := by
  obtain ⟨c, cs', hskip, hne⟩ := hstarts
  rw [← scanItems_skipSpaces, hskip] at hitems
  simp only [scanItems, hitem, skipSpaces_gap hbehind, skipSpaces_cons (c := ',') rfl, hskip]
  split
  · next h => exact absurd (List.cons.inj h).1 hne
  · rw [hitems]

theorem scanValue_noItems (hgap : Gap gap) :
    scanValue (fuel + 1) ('[' :: (gap ++ ']' :: rest)) = (.array [] .closed, some rest) := by
  simp only [scanValue, skipSpaces_cons (c := '[') rfl, skipSpaces_gap hgap, skipSpaces_cons (c := ']') rfl]

theorem scanValue_array (hstarts : StartsApart ']' cs) (hitems : scanItems fuel cs = (items, ending, left)) :
    scanValue (fuel + 1) ('[' :: cs) = (.array items ending, left) := by
  obtain ⟨c, cs', hskip, hne⟩ := hstarts
  rw [← scanItems_skipSpaces, hskip] at hitems
  simp only [scanValue, skipSpaces_cons (c := '[') rfl, hskip]
  split
  · next h => exact absurd (List.cons.inj h).1 hne
  · next h => cases h
  · rw [hitems]

theorem scanMember_writeText {value : List Char → Scan} {key : String} (hgap : Gap gap)
    (hvalue : value cs = (item, left)) :
    scanMember value wanted skipped (writeText key ++ (gap ++ ':' :: cs)) =
      ((.text ⟨.ok key, none⟩, item), left) := by
  rw [writeText_append, scanMember, scanText_writeText]
  simp only [skipSpaces_gap hgap, skipSpaces_cons (c := ':') rfl, hvalue]

theorem scanMembers_last
    (hmember : scanMember (scanValue fuel) wanted skipped cs = (member, some (behind ++ '\x7d' :: rest)))
    (hbehind : Gap behind) : scanMembers (fuel + 1) wanted skipped cs = ([member], .closed, some rest) := by
  simp only [scanMembers, hmember, skipSpaces_gap hbehind, skipSpaces_cons (c := '\x7d') rfl]

theorem scanMembers_cons
    (hmember : scanMember (scanValue fuel) wanted skipped cs = (member, some (behind ++ ',' :: ds)))
    (hbehind : Gap behind)
    (hmembers : ∀ wanted skipped, scanMembers fuel wanted skipped (skipSpaces ds) = (members, ending, left)) :
    scanMembers (fuel + 1) wanted skipped cs = (member :: members, ending, left) := by
  simp only [scanMembers, hmember, skipSpaces_gap hbehind, skipSpaces_cons (c := ',') rfl, hmembers]

theorem scanValue_noMembers (hgap : Gap gap) :
    scanValue (fuel + 1) ('\x7b' :: (gap ++ '\x7d' :: rest)) = (.object [] .closed, some rest) := by
  simp only [scanValue, skipSpaces_cons (c := '\x7b') rfl, skipSpaces_gap hgap, skipSpaces_cons (c := '\x7d') rfl]

theorem scanValue_object (hstarts : StartsApart '\x7d' cs)
    (hmembers : scanMembers fuel .keyNotString .keyNotString (skipSpaces cs) = (members, ending, left)) :
    scanValue (fuel + 1) ('\x7b' :: cs) = (.object members ending, left) := by
  obtain ⟨c, cs', hskip, hne⟩ := hstarts
  rw [hskip] at hmembers
  simp only [scanValue, skipSpaces_cons (c := '\x7b') rfl, hskip]
  split
  · next h => exact absurd (List.cons.inj h).1 hne
  · next h => cases h
  · rw [hmembers]

end Steps

theorem exists_start {v : Value} {cs : List Char} (h : v.SpelledAs cs) :
    ∃ c ds, cs = c :: ds ∧ isSpace c = false ∧ c ≠ ']' := by
  cases h with
  | null => exact ⟨'n', _, rfl, by decide, by decide⟩
  | bool b => cases b <;> exact ⟨_, _, rfl, by decide, by decide⟩
  | integer n =>
      cases n with
      | ofNat n =>
          obtain ⟨d, ds, hds, hd⟩ := Numeral.exists_digits n
          exact ⟨d, ds, hds, isSpace_of_isDigit hd, ne_of_isDigit hd (by decide)⟩
      | negSucc n => exact ⟨'-', _, rfl, by decide, by decide⟩
  | string s => exact ⟨'"', _, rfl, by decide, by decide⟩
  | noItems | array => exact ⟨'[', _, rfl, by decide, by decide⟩
  | noMembers | object => exact ⟨'\x7b', _, rfl, by decide, by decide⟩

theorem startsApart_items {items : List Value} {cs : List Char} (h : ItemsSpelledAs items cs) (rest : List Char) :
    StartsApart ']' (cs ++ rest) := by
  cases h with
  | last hbefore hitem | cons hbefore hitem =>
      obtain ⟨c, ds, rfl, hspace, hne⟩ := exists_start hitem
      simp only [StartsApart, List.append_assoc, skipSpaces_gap hbefore, List.cons_append, skipSpaces_cons hspace]
      exact ⟨_, _, rfl, hne⟩

theorem skipSpaces_member {member : String × Value} {cs : List Char} (h : MemberSpelledAs member cs)
    (rest : List Char) : skipSpaces (cs ++ rest) = cs ++ rest ∧ ∃ ds, cs ++ rest = '"' :: ds := by
  cases h with
  | mk hgap hgap' hvalue =>
      rw [List.append_assoc, writeText_append]
      exact ⟨skipSpaces_cons rfl _, _, rfl⟩

theorem startsApart_members {members : List (String × Value)} {cs : List Char} (h : MembersSpelledAs members cs)
    (rest : List Char) : StartsApart '\x7d' (cs ++ rest) := by
  cases h with
  | last hbefore hmember | cons hbefore hmember =>
      rw [StartsApart, List.append_assoc, skipSpaces_gap hbefore, List.append_assoc]
      obtain ⟨hskip, ds, hds⟩ := skipSpaces_member hmember _
      exact ⟨'"', ds, hskip.trans hds, by decide⟩

mutual

/-- A value takes two steps for each of its characters at most: one to look for an item, and one to read it. -/
theorem scanValue_spelled {v : Value} {cs : List Char} (h : v.SpelledAs cs) {fuel : Nat}
    (hfuel : 2 * cs.length ≤ fuel) {rest : List Char} (hrest : Numeral.EndsAt rest) :
    scanValue fuel (cs ++ rest) = (v.tree, some rest) := by
  obtain ⟨fuel, rfl⟩ : ∃ n, fuel = n + 1 := by
    obtain ⟨c, ds, rfl, -⟩ := exists_start h
    rw [List.length_cons] at hfuel
    exact ⟨fuel - 1, by omega⟩
  cases h with
  | null => exact scanValue_flat rfl (by decide) (by decide) fuel _
  | bool b => cases b <;> exact scanValue_flat rfl (by decide) (by decide) fuel _
  | integer n => exact scanValue_integer n fuel hrest
  | string s => exact scanValue_string s fuel rest
  | noItems hgap =>
      rw [List.cons_append, List.append_assoc]
      exact scanValue_noItems hgap
  | array hitems =>
      rw [List.length_cons, List.length_append] at hfuel
      rw [List.cons_append, List.append_assoc]
      exact scanValue_array (startsApart_items hitems _) (scanItems_spelled hitems (by omega) rest)
  | noMembers hgap =>
      rw [List.cons_append, List.append_assoc]
      exact scanValue_noMembers hgap
  | object hmembers =>
      rw [List.length_cons, List.length_append] at hfuel
      rw [List.cons_append, List.append_assoc]
      exact scanValue_object (startsApart_members hmembers _) (scanMembers_spelled hmembers (by omega) rest)

theorem scanItems_spelled {items : List Value} {cs : List Char} (h : ItemsSpelledAs items cs) {fuel : Nat}
    (hfuel : 2 * cs.length + 1 ≤ fuel) (rest : List Char) :
    scanItems fuel (cs ++ ']' :: rest) = (trees items, .closed, some rest) := by
  obtain ⟨fuel, rfl⟩ : ∃ n, fuel = n + 1 := ⟨fuel - 1, by omega⟩
  cases h with
  | last hbefore hitem hbehind =>
      simp only [List.length_append] at hfuel
      simp only [List.append_assoc]
      refine scanItems_last ?_ hbehind
      rw [scanValue_gap hbefore]
      exact scanValue_spelled hitem (by omega) (endsAt_gap hbehind (by decide) _)
  | cons hbefore hitem hbehind hitems =>
      simp only [List.length_append, List.length_cons] at hfuel
      simp only [List.append_assoc]
      refine scanItems_cons ?_ hbehind (startsApart_items hitems _) (scanItems_spelled hitems (by omega) rest)
      rw [scanValue_gap hbefore]
      exact scanValue_spelled hitem (by omega) (endsAt_gap hbehind (by decide) _)

theorem scanMember_spelled {member : String × Value} {cs : List Char} (h : MemberSpelledAs member cs) {fuel : Nat}
    (hfuel : 2 * cs.length ≤ fuel) {rest : List Char} (hrest : Numeral.EndsAt rest) {wanted skipped : Fault} :
    scanMember (scanValue fuel) wanted skipped (cs ++ rest) =
      ((.text ⟨.ok member.1, none⟩, member.2.tree), some rest) := by
  cases h with
  | mk hgap hgap' hvalue =>
      simp only [List.length_append, List.length_cons] at hfuel
      rw [List.append_assoc, List.append_assoc, List.cons_append, List.append_assoc]
      refine scanMember_writeText hgap ?_
      rw [scanValue_gap hgap']
      exact scanValue_spelled hvalue (by omega) hrest

theorem scanMembers_spelled {members : List (String × Value)} {cs : List Char} (h : MembersSpelledAs members cs)
    {fuel : Nat} (hfuel : 2 * cs.length + 1 ≤ fuel) (rest : List Char) {wanted skipped : Fault} :
    scanMembers fuel wanted skipped (skipSpaces (cs ++ '\x7d' :: rest)) =
      (memberTrees members, .closed, some rest) := by
  obtain ⟨fuel, rfl⟩ : ∃ n, fuel = n + 1 := ⟨fuel - 1, by omega⟩
  cases h with
  | last hbefore hmember hbehind =>
      simp only [List.length_append] at hfuel
      simp only [List.append_assoc, skipSpaces_gap hbefore, (skipSpaces_member hmember _).1]
      exact scanMembers_last (scanMember_spelled hmember (by omega) (endsAt_gap hbehind (by decide) _)) hbehind
  | cons hbefore hmember hbehind hmembers =>
      simp only [List.length_append, List.length_cons] at hfuel
      simp only [List.append_assoc, skipSpaces_gap hbefore, (skipSpaces_member hmember _).1]
      exact scanMembers_cons (scanMember_spelled hmember (by omega) (endsAt_gap hbehind (by decide) _)) hbehind
        fun _ _ => scanMembers_spelled hmembers (by omega) rest

end

/-- A written value is read as what it is, and nothing is left of the text. -/
theorem scan_spelled {v : Value} {cs : List Char} (h : v.SpelledAs cs) : scan cs = (v.tree, some []) := by
  have hend : Numeral.EndsAt [] := fun _ hc => by cases hc
  have hscan := scanValue_spelled h (Nat.le_add_right (2 * cs.length) 2) hend
  rwa [List.append_nil] at hscan

end Tree

end WireShadow.Json
