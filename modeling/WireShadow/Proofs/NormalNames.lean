import WireShadow.Proofs.Lists
import WireShadow.TypeName

namespace WireShadow

namespace Text

theorem trimChars_eq_rdropWhile (cs : List Char) : trimChars cs = (cs.dropWhile isBlank).rdropWhile isBlank := rfl

theorem infix_trimChars (cs : List Char) : trimChars cs <:+: cs :=
  (List.rdropWhile_prefix isBlank _).isInfix.trans (List.dropWhile_suffix isBlank).isInfix

theorem rdropWhile_isBlank_eq_self_iff {cs : List Char} :
    cs.rdropWhile isBlank = cs ↔ ∀ c ∈ cs.getLast?, isBlank c = false := by
  rw [List.rdropWhile_eq_self_iff]
  refine ⟨fun h c hc => ?_, fun h hne => ?_⟩
  · obtain ⟨hne, rfl⟩ := List.mem_getLast?_eq_getLast hc
    simpa using h hne
  · simpa using h _ (List.getLast?_eq_getLast_of_ne_nil hne)

theorem trimChars_eq_self_iff {cs : List Char} : trimChars cs = cs ↔
    (∀ c ∈ cs.head?, isBlank c = false) ∧ ∀ c ∈ cs.getLast?, isBlank c = false := by
  have hfront : cs.dropWhile isBlank = cs ↔ ∀ c ∈ cs.head?, isBlank c = false := by
    cases cs with
    | nil => simp
    | cons c cs => simp [List.dropWhile_eq_self_iff]
  have hback : cs.rdropWhile isBlank = cs ↔ ∀ c ∈ cs.getLast?, isBlank c = false := rdropWhile_isBlank_eq_self_iff
  constructor
  · intro h
    have hsame : cs.dropWhile isBlank = cs := by
      refine (List.dropWhile_suffix isBlank).eq_of_length_le ?_
      have hle := (List.rdropWhile_prefix isBlank (cs.dropWhile isBlank)).length_le
      rwa [← trimChars_eq_rdropWhile, h] at hle
    rw [trimChars_eq_rdropWhile, hsame] at h
    exact ⟨hfront.mp hsame, hback.mp h⟩
  · rintro ⟨hhead, hlast⟩
    rw [trimChars_eq_rdropWhile, hfront.mpr hhead, hback.mpr hlast]

end Text

namespace TypeName

open Text

/-- A name as it is compared: no blanks at the ends and no alias in front. -/
structure Normal (name : String) : Prop where
  front : ∀ c ∈ name.toList.head?, isBlank c = false
  back : ∀ c ∈ name.toList.getLast?, isBlank c = false
  unrooted : ¬rootAlias <+: name.toList

variable {name : String} {cs : List Char}

theorem dropAlias_eq_self (h : ¬rootAlias <+: cs) : dropAlias cs = cs := by
  rw [dropAlias]
  cases hrest : rootAlias.isPrefixOf? cs with
  | none => rfl
  | some rest => exact absurd ⟨rest, List.isPrefixOf?_eq_some_iff_append_eq.mp hrest⟩ h

theorem dropAlias_append (cs : List Char) : dropAlias (rootAlias ++ cs) = cs := rfl

theorem length_dropAlias_le (cs : List Char) : (dropAlias cs).length ≤ cs.length := by
  by_cases h : rootAlias <+: cs
  · obtain ⟨rest, rfl⟩ := h
    rw [dropAlias_append, List.length_append]
    exact Nat.le_add_left _ _
  · rw [dropAlias_eq_self h]

theorem toList_normalize (name : String) : (normalize name).toList = dropAlias (trimChars name.toList) := by
  rw [normalize, String.toList_ofList]

theorem normalize_eq_self_iff : normalize name = name ↔ Normal name := by
  rw [← String.toList_inj, toList_normalize]
  constructor
  · intro h
    -- Both steps can only shorten a name, so neither changes one that both together leave as it is.
    have htrim : trimChars name.toList = name.toList := by
      refine (infix_trimChars name.toList).eq_of_length_le ?_
      have hle := length_dropAlias_le (trimChars name.toList)
      rwa [h] at hle
    obtain ⟨hfront, hback⟩ := trimChars_eq_self_iff.mp htrim
    refine ⟨hfront, hback, fun ⟨rest, hrest⟩ => ?_⟩
    rw [htrim, ← hrest, dropAlias_append] at h
    have hlength := congrArg List.length h
    rw [List.length_append] at hlength
    exact absurd hlength (Nat.ne_of_lt (Nat.lt_add_of_pos_left (by decide)))
  · rintro ⟨hfront, hback, hunrooted⟩
    rw [trimChars_eq_self_iff.mpr ⟨hfront, hback⟩, dropAlias_eq_self hunrooted]

theorem toList_rooted (name : String) : (rooted name).toList = rootAlias ++ name.toList := by
  rw [rooted, String.toList_append]
  rfl

theorem normalize_rooted (h : Normal name) (hne : name ≠ "") : normalize (rooted name) = name := by
  have hchars : name.toList ≠ [] := fun hnil => hne (String.toList_eq_nil_iff.mp hnil)
  have htrim : trimChars (rooted name).toList = (rooted name).toList := by
    rw [toList_rooted]
    refine trimChars_eq_self_iff.mpr ⟨fun c hc => ?_, fun c hc => h.back c ?_⟩
    · obtain rfl : c = 'g' := (Option.some.inj hc).symm
      decide
    · rwa [List.getLast?_append_of_ne_nil _ hchars] at hc
  rw [← String.toList_inj, toList_normalize, htrim, toList_rooted, dropAlias_append]

theorem dropAliases_suffix (cs : List Char) : dropAliases cs <:+ cs := by
  induction cs using dropAliases.induct with
  | case1 cs ih => exact ih.trans (List.suffix_append rootAlias cs)
  | case2 cs hne => exact ⟨[], by rw [dropAliases.eq_2 cs hne, List.nil_append]⟩

theorem dropAliases_rootAlias_append (cs : List Char) : dropAliases (rootAlias ++ cs) = dropAliases cs := rfl

theorem dropAliases_eq_self (h : ¬rootAlias <+: cs) : dropAliases cs = cs :=
  dropAliases.eq_2 cs fun rest hrest => h ⟨rest, hrest.symm⟩

theorem dropAliases_dropAlias (cs : List Char) : dropAliases (dropAlias cs) = dropAliases cs := by
  by_cases h : rootAlias <+: cs
  · obtain ⟨rest, rfl⟩ := h
    rw [dropAlias_append, dropAliases_rootAlias_append]
  · rw [dropAlias_eq_self h]

/-- Aliases have no blanks: where none are at the ends of what follows them, none are at the ends of the whole. -/
theorem trimChars_eq_self_of_dropAliases (hne : dropAliases cs ≠ [])
    (h : trimChars (dropAliases cs) = dropAliases cs) : trimChars cs = cs := by
  obtain ⟨hfront, hback⟩ := trimChars_eq_self_iff.mp h
  refine trimChars_eq_self_iff.mpr ⟨fun c hc => ?_, fun c hc => hback c ?_⟩
  · by_cases halias : rootAlias <+: cs
    · obtain ⟨rest, rfl⟩ := halias
      obtain rfl : c = 'g' := (Option.some.inj hc).symm
      decide
    · rw [dropAliases_eq_self halias] at hfront
      exact hfront c hc
  · obtain ⟨aliases, happend⟩ := dropAliases_suffix cs
    rwa [← happend, List.getLast?_append_of_ne_nil _ hne] at hc

end TypeName

end WireShadow
