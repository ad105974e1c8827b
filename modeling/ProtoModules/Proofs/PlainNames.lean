import Mathlib.Data.List.TakeWhile
import ProtoModules.Proofs.Linking
import ProtoModules.Proofs.Specifiers

/-!
# Plain names

The names of a schema are made of letters, digits and underscores.  The letters may be of any
script: what matters is that none of them is one of the marks that a module puts around its
names, and all the marks are ASCII characters.  Capitalising, joining, cutting and flattening
names gives no marks but those that are put in on purpose.
-/

namespace ProtoModules

open Schema

namespace Text

/--
Whether a character is no mark: an ASCII letter or digit, the underscore, or any character
beyond ASCII.
-/
def isNameChar (c : Char) : Bool :=
  c.isAlphanum || c = '_' || 0x80 ≤ c.toNat

def isName (text : Text) : Bool :=
  text.all isNameChar

def isDotted (text : Text) : Bool :=
  text.all fun c => isNameChar c || c = '.'

theorem isName_iff {text : Text} :
    isName text = true ↔ forall c, c ∈ text -> isNameChar c = true :=
  List.all_eq_true

theorem isDotted_iff {text : Text} :
    isDotted text = true ↔ forall c, c ∈ text -> isNameChar c = true ∨ c = '.' := by
  simp [isDotted]

theorem not_mem_of_isName {text : Text} (hname : isName text = true) {c : Char}
    (hmark : isNameChar c = false) : c ∉ text := by
  intro hc
  rw [isName_iff.mp hname c hc] at hmark
  cases hmark

theorem not_mem_of_isDotted {text : Text} (hdotted : isDotted text = true) {c : Char}
    (hmark : isNameChar c = false) (hdot : c ≠ '.') : c ∉ text := by
  intro hc
  rcases isDotted_iff.mp hdotted c hc with hname | hsame
  · rw [hname] at hmark
    cases hmark
  · exact hdot hsame

theorem isName_append {front back : Text} :
    isName (front ++ back) = true ↔ isName front = true ∧ isName back = true := by
  simp [isName]

/-- Letters and numerals of all scripts may stand in names. -/
theorem isNameChar_of_isWordChar {c : Char} (hword : isWordChar c = true) :
    isNameChar c = true := by
  have hranges : forall range, range ∈ wordRanges ->
      0x80 ≤ range.1 ∨ range.2 < 0x80 ∧
        forall code, code < range.2 + 1 -> range.1 ≤ code ->
          isNameChar (Char.ofNat code) = true := by
    decide +kernel
  rcases inRanges_iff.mp hword with ⟨range, hrange, hfirst, hlast⟩
  rcases hranges range hrange with hbeyond | ⟨_, hascii⟩
  · have hcode : 0x80 ≤ c.toNat := Nat.le_trans hbeyond hfirst
    simp [isNameChar, hcode]
  · have hchar := hascii c.toNat (Nat.lt_succ_of_le hlast) hfirst
    rwa [Char.ofNat_toNat] at hchar

/-!
## Upper case
-/

theorem isName_upperChar {c : Char} (hc : isNameChar c = true) :
    isName (upperChar c) = true := by
  have hexpansions : forall entry, entry ∈ upperExpansions -> forall code, code ∈ entry.2 ->
      isNameChar (Char.ofNat code) = true := by
    decide +kernel
  have hruns : forall run, run ∈ upperRuns -> forall index, index < run.count ->
      isNameChar (Char.ofNat (run.upper + run.step * index)) = true := by
    decide +kernel
  rw [isName_iff]
  intro upper hupper
  rcases List.mem_map.mp hupper with ⟨code, hcode, rfl⟩
  rcases upperCodes_cases c.toNat with
    ⟨codes, hentry, hcodes⟩ | ⟨run, index, hrun, hindex, _, hcodes⟩ | hcodes
  · rw [hcodes] at hcode
    exact hexpansions (c.toNat, codes) hentry code hcode
  · rw [hcodes, List.mem_singleton] at hcode
    rw [hcode]
    exact hruns run hrun index hindex
  · rw [hcodes, List.mem_singleton] at hcode
    rwa [hcode, Char.ofNat_toNat]

theorem isName_capitalize {text : Text} (hname : isName text = true) :
    isName (capitalize text) = true := by
  cases text with
  | nil => rfl
  | cons c rest =>
      rw [isName_iff, List.forall_mem_cons] at hname
      rw [capitalize, isName_append]
      exact ⟨isName_upperChar hname.1, isName_iff.mpr hname.2⟩

/-!
## Joined and cut texts
-/

theorem mem_joined_of_mem {sep : String} {parts : List Text} {part : Text} {c : Char}
    (hpart : part ∈ parts) (hc : c ∈ part) : c ∈ joined sep parts := by
  induction parts with
  | nil => cases hpart
  | cons first rest ih =>
      cases rest with
      | nil =>
          rw [joined_singleton]
          rwa [← List.mem_singleton.mp hpart]
      | cons second others =>
          rw [joined, List.intercalate_cons_cons, List.mem_append, List.mem_append]
          rcases List.mem_cons.mp hpart with rfl | hpart
          · exact Or.inl (Or.inl hc)
          · exact Or.inr (ih hpart)

theorem mem_of_mem_joined {sep : String} {parts : List Text} {c : Char}
    (hc : c ∈ joined sep parts) :
    c ∈ sep.toList ∨ exists part, part ∈ parts ∧ c ∈ part := by
  induction parts with
  | nil => cases hc
  | cons first rest ih =>
      cases rest with
      | nil =>
          rw [joined_singleton] at hc
          exact Or.inr ⟨first, List.mem_cons_self, hc⟩
      | cons second others =>
          rw [joined, List.intercalate_cons_cons, List.mem_append, List.mem_append] at hc
          rcases hc with (hc | hc) | hc
          · exact Or.inr ⟨first, List.mem_cons_self, hc⟩
          · exact Or.inl hc
          · rcases ih hc with hsep | ⟨part, hpart, hc⟩
            · exact Or.inl hsep
            · exact Or.inr ⟨part, List.mem_cons_of_mem first hpart, hc⟩

theorem mem_of_mem_splitOn {sep : Char} {text piece : Text} (hpiece : piece ∈ text.splitOn sep)
    {c : Char} (hc : c ∈ piece) : c ∈ text := by
  have hjoined : joined (String.singleton sep) (text.splitOn sep) = text := by
    have hsep : (String.singleton sep).toList = [sep] := by simp
    rw [joined, hsep]
    exact List.intercalate_splitOn sep
  rw [← hjoined]
  exact mem_joined_of_mem hpiece hc

theorem mem_of_mem_afterLast {sep : Char} {text : Text} {c : Char}
    (hc : c ∈ afterLast sep text) : c ∈ text := by
  unfold afterLast at hc
  cases hcut : cutLast sep text with
  | none =>
      rw [hcut] at hc
      exact hc
  | some halves =>
      rw [hcut] at hc
      rw [(cutLast_eq_some hcut).1]
      exact List.mem_append_right _ (List.mem_cons_of_mem sep hc)

theorem isName_beforeFirst {text : Text} (hdotted : isDotted text = true) :
    isName (beforeFirst '.' text) = true := by
  rw [isName_iff]
  intro c hc
  have hdot : c ≠ '.' := by simpa using List.mem_takeWhile_imp hc
  exact (isDotted_iff.mp hdotted c (List.takeWhile_subset _ hc)).resolve_right hdot

end Text

namespace CamelCase

theorem isName_of_mem_words {name : Text} (hname : Text.isName name = true) {word : Text}
    (hword : word ∈ words name) : Text.isName word = true :=
  Text.isName_iff.mpr fun c hc => Text.isName_iff.mp hname c (Text.mem_of_mem_splitOn hword hc)

theorem isName_flatMap_capitalize {parts : List Text}
    (hparts : forall part, part ∈ parts -> Text.isName part = true) :
    Text.isName (parts.flatMap Text.capitalize) = true := by
  rw [Text.isName_iff]
  intro c hc
  rcases List.mem_flatMap.mp hc with ⟨part, hpart, hc⟩
  exact Text.isName_iff.mp (Text.isName_capitalize (hparts part hpart)) c hc

theorem isName_upper {name : Text} (hname : Text.isName name = true) :
    Text.isName (upper name) = true :=
  isName_flatMap_capitalize fun _ hword => isName_of_mem_words hname hword

theorem isName_lower {name : Text} (hname : Text.isName name = true) :
    Text.isName (lower name) = true := by
  unfold lower
  cases hwords : words name with
  | nil => rfl
  | cons first rest =>
      have hall : forall word, word ∈ first :: rest -> Text.isName word = true := by
        rw [← hwords]
        exact fun _ hword => isName_of_mem_words hname hword
      rw [List.forall_mem_cons] at hall
      exact Text.isName_append.mpr ⟨hall.1, isName_flatMap_capitalize hall.2⟩

end CamelCase

namespace TypeName

theorem mem_of_mem_flattened {package name : Text} {c : Char} (hc : c ∈ flattened package name) :
    c = '_' ∨ (c ∈ name ∧ c ≠ '.') := by
  have hshort : withoutPackage package (shown name) ⊆ name := by
    unfold withoutPackage
    split
    · exact List.Subset.trans (List.drop_subset _ _) (List.dropWhile_subset _)
    · exact List.dropWhile_subset _
  rcases List.mem_cons.mp hc with rfl | hc
  · exact Or.inl rfl
  · rcases List.mem_cons.mp hc with rfl | hc
    · exact Or.inl rfl
    · rcases List.mem_map.mp hc with ⟨old, hold, rfl⟩
      by_cases hdot : old = '.'
      · exact Or.inl (if_pos hdot)
      · rw [if_neg hdot]
        exact Or.inr ⟨hshort hold, hdot⟩

theorem mem_of_mem_localIdentifier {package name : Text} {c : Char}
    (hc : c ∈ localIdentifier package name) : c = '_' ∨ c ∈ name := by
  have hbare : forall (bare : Text) (test : Prop) [Decidable test], bare ⊆ name ->
      c ∈ (if test then flattened package bare else Text.afterLast '.' bare) ->
      c = '_' ∨ c ∈ name := by
    intro bare test _ hbare hc
    split at hc
    · exact (mem_of_mem_flattened hc).imp_right fun hmem => hbare hmem.1
    · exact Or.inr (hbare (Text.mem_of_mem_afterLast hc))
  unfold localIdentifier at hc
  split at hc
  · exact hbare _ _ (List.subset_cons_self _ _) hc
  · exact hbare _ _ (List.Subset.refl _) hc

end TypeName
end ProtoModules
