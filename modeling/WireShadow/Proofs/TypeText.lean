import WireShadow.CSharp.TypeText
import WireShadow.Declaration.Reference
import WireShadow.Proofs.NormalNames
import WireShadow.Text.Letter

namespace WireShadow

open WireShadow.TypeName

namespace CSharp

def bareText (qualifiedName : String) (arguments : List String) : TypeRefKind → String
  | .array =>
    match arguments with
    | [] => "global::System.Array"
    | element :: _ => element ++ "[]"
  | .typeParameter => qualifiedName
  | _ => (keyword? qualifiedName).getD (rooted qualifiedName ++ angled arguments)

theorem typeText_eq (t : TypeRef) :
    typeText t =
      if t.nullable then bareText t.qualifiedName (t.arguments.map typeText) t.kind ++ "?"
      else bareText t.qualifiedName (t.arguments.map typeText) t.kind := by
  rw [← typeTexts_eq_map]
  obtain ⟨name, kind, arguments, nullable, interfaces⟩ := t
  cases kind <;> rfl

def signs : List Char := ['<', '>', ',', '?', '[', ']', ':']

def Legible (name : String) : Prop := name ≠ "" ∧ ∀ c ∈ name.toList, c ∉ signs

instance (name : String) : Decidable (Legible name) :=
  decidable_of_iff (name ≠ "" ∧ name.toList.all (· ∉ signs) = true) (by simp [Legible])

theorem not_mem_signs_of_isIdentifier {part : String} (h : Text.isIdentifier part = true) {c : Char}
    (hc : c ∈ part.toList) : c ∉ signs := by
  have hsigns : signs.all (fun sign => !(sign == '_' || Text.isLetter sign || Text.isNumeral sign)) = true := by decide
  simp only [List.all_eq_true, Bool.not_eq_true', Bool.eq_false_iff] at hsigns
  intro hsign
  refine hsigns c hsign ?_
  rw [Text.isIdentifier] at h
  cases hpart : part.toList with
  | nil => rw [hpart] at hc; cases hc
  | cons first cs =>
      simp only [hpart, Bool.and_eq_true, List.all_eq_true] at h
      rw [hpart] at hc
      rcases List.mem_cons.mp hc with rfl | hc
      · rw [h.1, Bool.true_or]
      · exact h.2 c hc

theorem legible_intercalate {parts : List String} (hne : parts ≠ [])
    (h : ∀ part ∈ parts, Text.isIdentifier part = true) : Legible (String.intercalate "." parts) := by
  have hchars : (String.intercalate "." parts).toList = ['.'].intercalate (parts.map String.toList) :=
    String.toList_intercalate
  refine ⟨fun hempty => ?_, fun c hc => ?_⟩
  · obtain ⟨part, rest, rfl⟩ := List.exists_cons_of_ne_nil hne
    obtain ⟨hpart, -⟩ := List.forall_mem_cons.mp h
    obtain ⟨behind, hfront⟩ : ∃ behind,
        ['.'].intercalate ((part :: rest).map String.toList) = part.toList ++ behind := by
      cases rest with
      | nil => exact ⟨[], by simp⟩
      | cons part' rest =>
          exact ⟨_, by rw [List.map_cons, List.map_cons, List.intercalate_cons_cons, List.append_assoc]⟩
    rw [hempty, String.toList_empty, hfront] at hchars
    obtain rfl : part = "" := String.toList_eq_nil_iff.mp (List.append_eq_nil_iff.mp hchars.symm).1
    cases hpart
  · rw [hchars] at hc
    rcases mem_intercalate hc with hdot | ⟨part, hpart, hc⟩
    · obtain rfl : c = '.' := List.mem_singleton.mp hdot
      decide
    · obtain ⟨part, hmem, rfl⟩ := List.mem_map.mp hpart
      exact not_mem_signs_of_isIdentifier (h part hmem) hc

theorem not_mem_signs_of_mem_keywords {k : String × String} (hk : k ∈ keywords) : ∀ c ∈ k.2.toList, c ∉ signs := by
  have hplain : keywords.all (fun k => k.2.toList.all (· ∉ signs)) = true := by decide
  simp only [List.all_eq_true, decide_eq_true_eq] at hplain
  exact hplain k hk

/-- The text behind what is written up to the next comma or closing bracket, where `depth` brackets are open and those
that open on the way are closed first. -/
def behind (depth : Nat) : List Char → List Char
  | [] => []
  | c :: cs =>
    if c = '<' then behind (depth + 1) cs
    else if depth = 0 ∧ (c = ',' ∨ c = '>') then c :: cs
    else if c = '>' then behind (depth - 1) cs
    else behind depth cs

/-- Every bracket is closed and every comma stands inside one, so that reading goes on behind the text as before it. -/
def Balanced (cs : List Char) : Prop := ∀ depth rest, behind depth (cs ++ rest) = behind depth rest

def closing : List String → List Char
  | [] => ['>']
  | text :: texts => ',' :: ' ' :: (text.toList ++ closing texts)

theorem toList_angled_cons (text : String) (texts : List String) :
    (angled (text :: texts)).toList = '<' :: (text.toList ++ closing texts) := by
  have hlist : (commaList (text :: texts)).toList ++ ['>'] = text.toList ++ closing texts := by
    induction texts generalizing text with
    | nil => simp [commaList, closing]
    | cons text' texts ih =>
        have hcomma : (commaList (text :: text' :: texts)).toList =
            text.toList ++ ',' :: ' ' :: (commaList (text' :: texts)).toList := by
          simp [commaList, String.toList_intercalate]
        rw [hcomma, closing, ← ih text', List.append_assoc]
        rfl
  rw [← hlist, angled]
  simp

theorem getLast?_angled (texts : List String) : ∀ c ∈ (angled texts).toList.getLast?, c = '>' := by
  intro c hc
  rw [angled] at hc
  split at hc
  · cases hc
  · rw [String.toList_append, List.getLast?_append_of_ne_nil _ (by simp)] at hc
    exact (Option.some.inj hc).symm

theorem head?_angled (texts : List String) : ∀ c ∈ (angled texts).toList.head?, c = '<' := by
  intro c hc
  cases texts with
  | nil => cases hc
  | cons text texts =>
      rw [toList_angled_cons] at hc
      exact (Option.some.inj hc).symm

theorem name_append_angled_eq_iff {name name' : String} (h : Legible name) (h' : Legible name')
    {texts texts' : List String} :
    name.toList ++ (angled texts).toList = name'.toList ++ (angled texts').toList ↔
      name = name' ∧ angled texts = angled texts' := by
  rw [← String.toList_inj, ← String.toList_inj]
  refine ⟨append_inj_of_head? (fun hc => h.2 '<' hc (by decide)) (fun hc => h'.2 '<' hc (by decide))
    (head?_angled texts) (head?_angled texts'), ?_⟩
  rintro ⟨hname, htexts⟩
  rw [hname, htexts]

theorem behind_zero_closing (texts : List String) : behind 0 (closing texts) = closing texts := by
  cases texts <;> simp [closing, behind]

theorem Balanced.append {xs ys : List Char} (hx : Balanced xs) (hy : Balanced ys) : Balanced (xs ++ ys) := by
  intro depth rest
  rw [List.append_assoc, hx, hy]

theorem balanced_of_plain {cs : List Char} (hopen : '<' ∉ cs) (hclose : '>' ∉ cs) (hcomma : ',' ∉ cs) :
    Balanced cs := by
  intro depth rest
  induction cs with
  | nil => rfl
  | cons c cs ih =>
      obtain ⟨hopen, hopens⟩ := not_or.mp (List.mem_cons.not.mp hopen)
      obtain ⟨hclose, hcloses⟩ := not_or.mp (List.mem_cons.not.mp hclose)
      obtain ⟨hcomma, hcommas⟩ := not_or.mp (List.mem_cons.not.mp hcomma)
      rw [List.cons_append, behind, if_neg (Ne.symm hopen), if_neg (by simp [Ne.symm hcomma, Ne.symm hclose]),
        if_neg (Ne.symm hclose), ih hopens hcloses hcommas]

theorem behind_closing {texts : List String} (h : ∀ text ∈ texts, Balanced text.toList) (depth : Nat)
    (rest : List Char) : behind (depth + 1) (closing texts ++ rest) = behind depth rest := by
  induction texts with
  | nil => simp [closing, behind]
  | cons text texts ih =>
      obtain ⟨htext, htexts⟩ := List.forall_mem_cons.mp h
      have hcomma : behind (depth + 1) (closing (text :: texts) ++ rest) =
          behind (depth + 1) (text.toList ++ (closing texts ++ rest)) := by
        simp [closing, behind]
      rw [hcomma, htext, ih htexts]

theorem balanced_angled {texts : List String} (h : ∀ text ∈ texts, Balanced text.toList) :
    Balanced (angled texts).toList := by
  intro depth rest
  cases texts with
  | nil => rfl
  | cons text texts =>
      obtain ⟨htext, htexts⟩ := List.forall_mem_cons.mp h
      rw [toList_angled_cons, List.cons_append, behind, if_pos rfl, List.append_assoc, htext, behind_closing htexts]

/-- A balanced text ends where the brackets around it go on. -/
theorem Balanced.append_inj {xs ys rest rest' : List Char} (hx : Balanced xs) (hy : Balanced ys)
    (hrest : behind 0 rest = rest) (hrest' : behind 0 rest' = rest') (h : xs ++ rest = ys ++ rest') :
    xs = ys ∧ rest = rest' := by
  have hsame : rest = rest' := by
    rw [← hrest, ← hrest', ← hx 0 rest, ← hy 0 rest', h]
  subst hsame
  exact ⟨List.append_cancel_right h, rfl⟩

inductive Form
  | array | parameter | builtIn | named
deriving DecidableEq

def Form.of (kind : TypeRefKind) (qualifiedName : String) : Form :=
  match kind with
  | .array => .array
  | .typeParameter => .parameter
  | _ => if (keyword? qualifiedName).isSome then .builtIn else .named

def Form.ofChars (cs : List Char) : Form :=
  if cs.getLast? = some ']' then .array
  else if ':' ∈ cs then .named
  else if String.ofList cs ∈ keywords.map (·.2) then .builtIn
  else .parameter

end CSharp

open CSharp

namespace TypeRef

def form (t : TypeRef) : Form := .of t.kind t.qualifiedName

/-- References whose text can be read again: names are legible, type parameters are not called like a built-in type,
and arrays have one element type. What is not written may be anything. -/
inductive Writable : TypeRef → Prop
  | intro {t : TypeRef} (legible : t.form = .parameter ∨ t.form = .named → Legible t.qualifiedName)
      (parameter : t.form = .parameter → t.qualifiedName ∉ keywords.map (·.2))
      (element : t.form = .array → t.arguments.length = 1)
      (arguments : t.form = .array ∨ t.form = .named → ∀ argument ∈ t.arguments, Writable argument) : Writable t

section Writable

variable {t : TypeRef}

theorem Writable.of_array (hform : t.form = .array) {element : TypeRef} (harguments : t.arguments = [element])
    (h : element.Writable) : t.Writable :=
  .intro (by simp [hform]) (by simp [hform]) (by simp [harguments]) (by simpa [harguments] using fun _ => h)

theorem Writable.of_parameter (hform : t.form = .parameter) (hlegible : Legible t.qualifiedName)
    (hname : t.qualifiedName ∉ keywords.map (·.2)) : t.Writable :=
  .intro (fun _ => hlegible) (fun _ => hname) (by simp [hform]) (by simp [hform])

theorem Writable.of_builtIn (hform : t.form = .builtIn) : t.Writable :=
  .intro (by simp [hform]) (by simp [hform]) (by simp [hform]) (by simp [hform])

theorem Writable.of_named (hform : t.form = .named) (hlegible : Legible t.qualifiedName)
    (h : ∀ argument ∈ t.arguments, argument.Writable) : t.Writable :=
  .intro (fun _ => hlegible) (by simp [hform]) (by simp [hform]) (fun _ => h)

end Writable

mutual

/-- A reference as far as it is written. Names are in the form in which they are compared. Left out are the interfaces,
the names of arrays, the arguments of type parameters and built-in types, and the kinds but for arrays and type
parameters. -/
def written : TypeRef → TypeRef
  | ⟨name, kind, arguments, nullable, _⟩ =>
    match Form.of kind (normalize name) with
    | .array => { name := "", kind := .array, arguments := writtenAll arguments, nullable }
    | .parameter => { name := normalize name, kind := .typeParameter, nullable }
    | .builtIn => { name := normalize name, nullable }
    | .named => { name := normalize name, arguments := writtenAll arguments, nullable }

def writtenAll : List TypeRef → List TypeRef
  | [] => []
  | t :: ts => t.written :: writtenAll ts

end

variable {t : TypeRef}

theorem written_eq (t : TypeRef) : t.written =
    match t.form with
    | .array => { name := "", kind := .array, arguments := writtenAll t.arguments, nullable := t.nullable }
    | .parameter => { name := t.qualifiedName, kind := .typeParameter, nullable := t.nullable }
    | .builtIn => { name := t.qualifiedName, nullable := t.nullable }
    | .named => { name := t.qualifiedName, arguments := writtenAll t.arguments, nullable := t.nullable } := by
  obtain ⟨name, kind, arguments, nullable, interfaces⟩ := t
  rfl

def bareChars (t : TypeRef) : List Char := (bareText t.qualifiedName (t.arguments.map typeText) t.kind).toList

theorem toList_typeText (t : TypeRef) : (typeText t).toList = t.bareChars ++ if t.nullable then ['?'] else [] := by
  rw [typeText_eq, bareChars]
  cases t.nullable <;> simp

theorem bareText_eq (qualifiedName : String) (texts : List String) (kind : TypeRefKind) :
    bareText qualifiedName texts kind =
      match Form.of kind qualifiedName with
      | .array => texts.head?.elim "global::System.Array" (· ++ "[]")
      | .parameter => qualifiedName
      | .builtIn => (keyword? qualifiedName).getD ""
      | .named => rooted qualifiedName ++ angled texts := by
  cases kind with
  | array => cases texts <;> rfl
  | typeParameter => rfl
  | primitive | «enum» | «class» | struct | interface =>
      simp only [bareText, Form.of]
      cases keyword? qualifiedName <;> rfl

theorem keyword?_of_form (t : TypeRef) :
    (t.form = .builtIn → ∃ keyword, keyword? t.qualifiedName = some keyword) ∧
      (t.form = .named → keyword? t.qualifiedName = none) := by
  rw [form]
  cases t.kind with
  | array | typeParameter => exact ⟨nofun, nofun⟩
  | primitive | «enum» | «class» | struct | interface =>
      simp only [Form.of]
      cases keyword? t.qualifiedName <;> simp

theorem bareChars_array (hform : t.form = .array) {element : TypeRef} (helement : t.arguments = [element]) :
    t.bareChars = (typeText element).toList ++ ['[', ']'] := by
  rw [form] at hform
  simp [bareChars, bareText_eq, hform, helement]

theorem bareChars_parameter (hform : t.form = .parameter) : t.bareChars = t.qualifiedName.toList := by
  rw [form] at hform
  rw [bareChars, bareText_eq, hform]

theorem bareChars_named (hform : t.form = .named) :
    t.bareChars = rootAlias ++ (t.qualifiedName.toList ++ (angled (t.arguments.map typeText)).toList) := by
  rw [form] at hform
  rw [bareChars, bareText_eq, hform, String.toList_append, toList_rooted, List.append_assoc]

theorem exists_keyword (hform : t.form = .builtIn) :
    ∃ keyword, (t.qualifiedName, keyword) ∈ keywords ∧ t.bareChars = keyword.toList := by
  obtain ⟨keyword, hsome⟩ := (keyword?_of_form t).1 hform
  obtain ⟨before, after, hsplit, -⟩ := List.lookup_eq_some_iff.mp hsome
  rw [form] at hform
  refine ⟨keyword, ?_, by rw [bareChars, bareText_eq, hform, hsome, Option.getD_some]⟩
  rw [hsplit]
  exact List.mem_append_right before List.mem_cons_self

theorem exists_element (h : t.Writable) (hform : t.form = .array) :
    ∃ element, t.arguments = [element] ∧ element.Writable := by
  obtain ⟨-, -, hlength, harguments⟩ := h
  obtain ⟨element, helement⟩ := List.length_eq_one_iff.mp (hlength hform)
  exact ⟨element, helement, harguments (.inl hform) element (by simp [helement])⟩

theorem balanced_of_not_mem_signs {cs : List Char} (h : ∀ c ∈ cs, c ∉ signs) : Balanced cs :=
  balanced_of_plain (fun hc => h _ hc (by decide)) (fun hc => h _ hc (by decide)) (fun hc => h _ hc (by decide))

theorem balanced_typeText (h : t.Writable) : Balanced (typeText t).toList := by
  induction h with
  | @intro t hname hparameter hlength harguments ih =>
      have hsign : Balanced (if t.nullable then ['?'] else []) := by
        cases t.nullable <;> exact balanced_of_plain (by decide) (by decide) (by decide)
      rw [toList_typeText]
      refine Balanced.append ?_ hsign
      cases hform : t.form with
      | array =>
          obtain ⟨element, helement⟩ := List.length_eq_one_iff.mp (hlength hform)
          rw [bareChars_array hform helement]
          have hbrackets : Balanced ['[', ']'] := balanced_of_plain (by decide) (by decide) (by decide)
          exact (ih (.inl hform) element (by simp [helement])).append hbrackets
      | parameter =>
          rw [bareChars_parameter hform]
          exact balanced_of_not_mem_signs (hname (.inl hform)).2
      | builtIn =>
          obtain ⟨keyword, hkeyword, hchars⟩ := exists_keyword hform
          rw [hchars]
          exact balanced_of_not_mem_signs (not_mem_signs_of_mem_keywords hkeyword)
      | named =>
          have halias : Balanced rootAlias := balanced_of_plain (by decide) (by decide) (by decide)
          have htexts : Balanced (angled (t.arguments.map typeText)).toList :=
            balanced_angled (List.forall_mem_map.mpr (ih (.inr hform)))
          rw [bareChars_named hform]
          exact halias.append ((balanced_of_not_mem_signs (hname (.inr hform)).2).append htexts)

theorem getLast?_bareChars (h : t.Writable) :
    ∀ c ∈ t.bareChars.getLast?, c ∉ signs ∨ c = if t.form = .array then ']' else '>' := by
  intro c hc
  obtain ⟨hname, -, hlength, -⟩ := h
  cases hform : t.form with
  | array =>
      obtain ⟨element, helement⟩ := List.length_eq_one_iff.mp (hlength hform)
      rw [bareChars_array hform helement, List.getLast?_append_of_ne_nil _ (by simp)] at hc
      exact .inr (Option.some.inj hc).symm
  | parameter =>
      rw [bareChars_parameter hform] at hc
      exact .inl ((hname (.inl hform)).2 c (List.mem_of_mem_getLast? hc))
  | builtIn =>
      obtain ⟨keyword, hkeyword, hchars⟩ := exists_keyword hform
      rw [hchars] at hc
      exact .inl (not_mem_signs_of_mem_keywords hkeyword c (List.mem_of_mem_getLast? hc))
  | named =>
      have hlegible := hname (.inr hform)
      have hne : t.qualifiedName.toList ≠ [] := String.toList_eq_nil_iff.not.mpr hlegible.1
      rw [bareChars_named hform, List.getLast?_append_of_ne_nil _ (by simp [hne]), List.getLast?_append] at hc
      cases hlast : (angled (t.arguments.map typeText)).toList.getLast? with
      | none =>
          rw [hlast, Option.none_or] at hc
          exact .inl (hlegible.2 c (List.mem_of_mem_getLast? hc))
      | some sign =>
          rw [hlast, Option.some_or] at hc
          exact .inr (getLast?_angled _ c (hlast.trans hc))

theorem ofChars_bareChars (h : t.Writable) : Form.ofChars t.bareChars = t.form := by
  have hlast (hform : t.form ≠ .array) : t.bareChars.getLast? ≠ some ']' := by
    intro hc
    rcases getLast?_bareChars h _ hc with hsign | heq
    · exact hsign (by decide)
    · rw [if_neg hform] at heq
      exact absurd heq (by decide)
  rw [Form.ofChars]
  cases hform : t.form with
  | array =>
      obtain ⟨element, helement, -⟩ := exists_element h hform
      rw [bareChars_array hform helement, List.getLast?_append_of_ne_nil _ (by simp)]
      rfl
  | parameter =>
      obtain ⟨hname, hparameter, -, -⟩ := h
      rw [if_neg (hlast (by simp [hform])), bareChars_parameter hform,
        if_neg fun hc => (hname (.inl hform)).2 ':' hc (by decide), String.ofList_toList, if_neg (hparameter hform)]
  | builtIn =>
      obtain ⟨keyword, hkeyword, hchars⟩ := exists_keyword hform
      rw [if_neg (hlast (by simp [hform])), hchars,
        if_neg fun hc => not_mem_signs_of_mem_keywords hkeyword ':' hc (by decide), String.ofList_toList,
        if_pos (List.mem_map_of_mem hkeyword)]
  | named =>
      rw [if_neg (hlast (by simp [hform])), bareChars_named hform, if_pos]
      exact List.mem_append_left _ (by decide)

theorem typeText_eq_iff {a b : TypeRef} (ha : a.Writable) (hb : b.Writable) :
    typeText a = typeText b ↔ a.nullable = b.nullable ∧ a.bareChars = b.bareChars := by
  have hend {t : TypeRef} (ht : t.Writable) (rest : List Char) : t.bareChars ≠ rest ++ ['?'] := by
    intro heq
    rcases getLast?_bareChars ht '?' (by simp [heq]) with hsign | heq
    · exact hsign (by decide)
    · split at heq <;> cases heq
  rw [← String.toList_inj, toList_typeText, toList_typeText]
  cases a.nullable <;> cases b.nullable
  · simp
  · simpa using hend ha _
  · simpa using (hend hb _).symm
  · simp

theorem written_eq_iff {a b : TypeRef} (hform : a.form = b.form) :
    a.written = b.written ↔ a.nullable = b.nullable ∧ (a.form ≠ .array → a.qualifiedName = b.qualifiedName) ∧
      (a.form = .array ∨ a.form = .named → writtenAll a.arguments = writtenAll b.arguments) := by
  rw [written_eq, written_eq, ← hform]
  cases a.form <;> simp [and_comm, and_left_comm]

theorem form_eq_of_written_eq {a b : TypeRef} (h : a.written = b.written) : a.form = b.form := by
  have hclash {a b : TypeRef} (ha : a.form = .builtIn) (hb : b.form = .named) : a.qualifiedName ≠ b.qualifiedName := by
    intro hname
    obtain ⟨keyword, hsome⟩ := (keyword?_of_form a).1 ha
    rw [hname, (keyword?_of_form b).2 hb] at hsome
    cases hsome
  rw [written_eq, written_eq] at h
  cases ha : a.form <;> cases hb : b.form <;>
    simp only [ha, hb, TypeRef.mk.injEq, reduceCtorEq, false_and, and_false] at h ⊢
  · exact hclash ha hb h.1
  · exact hclash hb ha h.1.symm

theorem closing_eq_iff {xs ys : List TypeRef} (hxs : ∀ x ∈ xs, x.Writable) (hys : ∀ y ∈ ys, y.Writable)
    (ih : ∀ x ∈ xs, ∀ y : TypeRef, y.Writable → (typeText x = typeText y ↔ x.written = y.written)) :
    closing (xs.map typeText) = closing (ys.map typeText) ↔ writtenAll xs = writtenAll ys := by
  induction xs generalizing ys with
  | nil => cases ys <;> simp [closing, writtenAll]
  | cons x xs ihs =>
      cases ys with
      | nil => simp [closing, writtenAll]
      | cons y ys =>
          obtain ⟨hx, hxs⟩ := List.forall_mem_cons.mp hxs
          obtain ⟨hy, hys⟩ := List.forall_mem_cons.mp hys
          obtain ⟨ihx, ih⟩ := List.forall_mem_cons.mp ih
          -- A balanced text ends where the brackets around it go on, so the first texts and the rests agree apart.
          have hends := behind_zero_closing (xs.map typeText)
          have hends' := behind_zero_closing (ys.map typeText)
          simp only [List.map_cons, closing, List.cons.injEq, true_and, writtenAll, ← ihx y hy, ← ihs hxs hys ih,
            ← String.toList_inj]
          refine ⟨(balanced_typeText hx).append_inj (balanced_typeText hy) hends hends', ?_⟩
          rintro ⟨htext, hrest⟩
          rw [htext, hrest]

theorem angled_eq_iff {xs ys : List TypeRef} (hxs : ∀ x ∈ xs, x.Writable) (hys : ∀ y ∈ ys, y.Writable)
    (ih : ∀ x ∈ xs, ∀ y : TypeRef, y.Writable → (typeText x = typeText y ↔ x.written = y.written)) :
    angled (xs.map typeText) = angled (ys.map typeText) ↔ writtenAll xs = writtenAll ys := by
  rw [← closing_eq_iff hxs hys ih, ← String.toList_inj]
  cases xs with
  | nil => cases ys <;> simp [angled, closing]
  | cons x xs =>
      cases ys with
      | nil => simp [angled, closing]
      | cons y ys => simp only [List.map_cons, toList_angled_cons, closing, List.cons.injEq, true_and]

theorem bareChars_eq_iff {a b : TypeRef} (ha : a.Writable) (hb : b.Writable) (hforms : a.form = b.form)
    (ih : a.form = .array ∨ a.form = .named → ∀ x ∈ a.arguments, ∀ y : TypeRef, y.Writable →
      (typeText x = typeText y ↔ x.written = y.written)) :
    a.bareChars = b.bareChars ↔ (a.form ≠ .array → a.qualifiedName = b.qualifiedName) ∧
      (a.form = .array ∨ a.form = .named → writtenAll a.arguments = writtenAll b.arguments) := by
  cases hform : a.form with
  | array =>
      obtain ⟨x, hx, -⟩ := exists_element ha hform
      obtain ⟨y, hy, hwritable⟩ := exists_element hb (hforms.symm.trans hform)
      have hxy := ih (.inl hform) x (by simp [hx]) y hwritable
      rw [bareChars_array hform hx, bareChars_array (hforms.symm.trans hform) hy]
      simp [hx, hy, writtenAll, ← hxy, String.toList_inj]
  | parameter =>
      rw [bareChars_parameter hform, bareChars_parameter (hforms.symm.trans hform)]
      simp [String.toList_inj]
  | builtIn =>
      have hone : ∀ k ∈ keywords, ∀ k' ∈ keywords, k.2 = k'.2 ↔ k.1 = k'.1 := by decide +kernel
      obtain ⟨keyword, hkeyword, hchars⟩ := exists_keyword hform
      obtain ⟨keyword', hkeyword', hchars'⟩ := exists_keyword (hforms.symm.trans hform)
      rw [hchars, hchars', String.toList_inj, hone _ hkeyword _ hkeyword']
      simp
  | named =>
      obtain ⟨hname, -, -, harguments⟩ := ha
      obtain ⟨hname', -, -, harguments'⟩ := hb
      have hform' : b.form = .named := hforms.symm.trans hform
      rw [bareChars_named hform, bareChars_named hform', List.append_cancel_left_eq,
        name_append_angled_eq_iff (hname (.inr hform)) (hname' (.inr hform')),
        angled_eq_iff (harguments (.inr hform)) (harguments' (.inr hform')) (ih (.inr hform))]
      simp

/-- Types are written without ambiguity: two references have one text exactly if they are the same as far as they are
written. -/
theorem typeText_eq_iff_written_eq {a b : TypeRef} (ha : a.Writable) (hb : b.Writable) :
    typeText a = typeText b ↔ a.written = b.written := by
  induction ha generalizing b with
  | @intro a legible parameter element arguments ih =>
      have ha : a.Writable := .intro legible parameter element arguments
      by_cases hforms : a.form = b.form
      · have hbare := bareChars_eq_iff ha hb hforms fun hform x hx y hy => ih hform x hx hy
        rw [typeText_eq_iff ha hb, written_eq_iff hforms, hbare]
      · refine iff_of_false (fun h => hforms ?_) (fun h => hforms (form_eq_of_written_eq h))
        rw [← ofChars_bareChars ha, ← ofChars_bareChars hb, ((typeText_eq_iff ha hb).mp h).2]

end TypeRef

namespace Sample

def map : TypeRef :=
  { name := "global::Shop.Map", kind := .struct, nullable := true
    arguments :=
      [{ name := "System.Int32", kind := .primitive, nullable := true },
        { name := "System.Array", kind := .array, nullable := true
          arguments := [{ name := "T", kind := .typeParameter, nullable := true }] }] }

def respelledMap : TypeRef :=
  { name := " Shop.Map ", nullable := true
    interfaces := ["System.Collections.Generic.IDictionary`2"]
    arguments :=
      [{ name := "global::System.Int32", nullable := true, arguments := [{ name := "?" }] },
        { name := "", kind := .array, nullable := true
          arguments := [{ name := "global::T", kind := .typeParameter, nullable := true }] }] }

end Sample

namespace TypeRef

open Sample

theorem typeText_eq_iff_written_eq_map :
    map.Writable ∧ respelledMap.Writable ∧ typeText map = "global::Shop.Map<int?, T?[]?>?" ∧
      typeText respelledMap = "global::Shop.Map<int?, T?[]?>?" ∧ map.written = respelledMap.written := by
  have hlegible : Legible (String.intercalate "." ["Shop", "Map"]) := legible_intercalate (by decide) (by decide)
  have hmap : map.Writable := by
    refine .of_named (by decide +kernel) hlegible fun t ht => ?_
    obtain rfl | rfl := by simpa [map] using ht
    · exact .of_builtIn (by decide +kernel)
    · exact .of_array rfl rfl (.of_parameter rfl (by decide) (by decide +kernel))
  have hrespelled : respelledMap.Writable := by
    refine .of_named (by decide +kernel) hlegible fun t ht => ?_
    obtain rfl | rfl := by simpa [respelledMap] using ht
    · exact .of_builtIn (by decide +kernel)
    · exact .of_array rfl rfl (.of_parameter rfl (by decide) (by decide +kernel))
  have htext : typeText map = "global::Shop.Map<int?, T?[]?>?" := by decide +kernel
  have htext' : typeText respelledMap = "global::Shop.Map<int?, T?[]?>?" := by decide +kernel
  exact ⟨hmap, hrespelled, htext, htext', (typeText_eq_iff_written_eq hmap hrespelled).mp (htext.trans htext'.symm)⟩

end TypeRef

end WireShadow
