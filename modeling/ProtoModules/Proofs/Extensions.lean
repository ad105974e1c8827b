import Mathlib.Data.List.TakeWhile
import ProtoModules.Proofs.Specifiers

/-!
# Replacing extensions

A path is its stem and its extension, so paths with one extension differ in their stems.  An
extension that is put behind a path can be taken off again if the name of the path is more
than dots; otherwise its dot is one of those that the name begins with, and it opens no
extension.  A stem keeps the first character of its name that is no dot.  So an extension that
has replaced another one is replaced in turn, as if it had never been there.
-/

namespace ProtoModules
namespace Path

theorem cutName_append_right (path : Text) {back : Text} (hback : '/' ∉ back) :
    cutName (path ++ back) = ((cutName path).1, name path ++ back) := by
  have hname : '/' ∉ name path ++ back := by
    rw [List.mem_append, not_or]
    exact ⟨slash_not_mem_name path, hback⟩
  rw [← cutName_folder_append path hname, ← List.append_assoc, name, cutName_append]

/-!
## The dots that a name begins with
-/

/-- The name of a path, cut behind the dots that it begins with. -/
structure HasName (path dots rest : Text) : Prop where
  name_eq : name path = dots ++ rest
  eq_dot : forall c, c ∈ dots -> c = '.'
  head?_ne : rest.head? ≠ some '.'

theorem exists_hasName (path : Text) : exists dots rest, HasName path dots rest := by
  refine ⟨(name path).takeWhile (· = '.'), (name path).dropWhile (· = '.'),
    List.takeWhile_append_dropWhile.symm, ?_, ?_⟩
  · intro c hc
    have hpassed := List.mem_takeWhile_imp hc
    exact of_decide_eq_true hpassed
  · intro hhead
    have hstop := List.head?_dropWhile_not (fun c : Char => decide (c = '.')) (name path)
    rw [hhead] at hstop
    cases hstop

namespace HasName

variable {path dots rest back ending : Text}

theorem dropWhile_name (hname : HasName path dots rest) :
    (name path).dropWhile (· = '.') = rest := by
  have hdots : forall c, c ∈ dots -> decide (c = '.') = true := by
    intro c hc
    exact decide_eq_true (hname.eq_dot c hc)
  rw [hname.name_eq, List.dropWhile_append_of_pos hdots]
  cases rest with
  | nil => rfl
  | cons first more =>
      apply List.dropWhile_cons_of_neg
      simpa using hname.head?_ne

theorem takeWhile_name (hname : HasName path dots rest) :
    (name path).takeWhile (· = '.') = dots := by
  have hboth := List.takeWhile_append_dropWhile (p := (· = '.')) (l := name path)
  rw [hname.dropWhile_name, hname.name_eq] at hboth
  rw [hname.name_eq]
  exact List.append_cancel_right hboth

theorem exists_ne_dot_iff (hname : HasName path dots rest) :
    (exists c, c ∈ name path ∧ c ≠ '.') ↔ rest ≠ [] := by
  rw [← hname.dropWhile_name, Ne, List.dropWhile_eq_nil_iff]
  simp

theorem append_eq (hname : HasName path dots rest) : (cutName path).1 ++ (dots ++ rest) = path := by
  rw [← hname.name_eq, name, cutName_append]

theorem stem_eq_self (hname : HasName path dots rest) (hdot : '.' ∉ rest) :
    stem path = path := by
  have hrest : (cutName path).2.dropWhile (· = '.') = rest := hname.dropWhile_name
  simp only [stem, splitExtension, hrest, Text.cutLast_eq_none.mpr hdot]

theorem splitExtension_eq {front : Text} (hname : HasName path dots (front ++ '.' :: ending))
    (hdot : '.' ∉ ending) :
    splitExtension path = ((cutName path).1 ++ (dots ++ front), '.' :: ending) := by
  have hrest : (cutName path).2.dropWhile (· = '.') = front ++ '.' :: ending :=
    hname.dropWhile_name
  have hdots : (cutName path).2.takeWhile (· = '.') = dots := hname.takeWhile_name
  simp only [splitExtension, hrest, hdots, Text.cutLast_append front hdot, List.append_assoc]

/-- What is put behind a name that is more than dots leaves the dots in front as they are. -/
theorem append_of_ne_nil (hname : HasName path dots rest) (hrest : rest ≠ [])
    (hback : '/' ∉ back) : HasName (path ++ back) dots (rest ++ back) where
  name_eq := by
    rw [name, cutName_append_right path hback, hname.name_eq, List.append_assoc]
  eq_dot := hname.eq_dot
  head?_ne := by
    rw [List.head?_append_of_ne_nil rest hrest]
    exact hname.head?_ne

/-- The dot of an extension behind a name of dots is one of those that the name begins with. -/
theorem append_of_nil (hname : HasName path dots []) (hdot : '.' ∉ ending)
    (hslash : '/' ∉ ending) : HasName (path ++ '.' :: ending) (dots ++ ['.']) ending where
  name_eq := by
    rw [name, cutName_append_right path (by simp [hslash]), hname.name_eq]
    simp
  eq_dot := by
    intro c hc
    rcases List.mem_append.mp hc with hc | hc
    · exact hname.eq_dot c hc
    · exact List.mem_singleton.mp hc
  head?_ne := by
    intro hhead
    exact hdot (List.mem_of_head? hhead)

/-- The stem of a path keeps the first character of the name that is no dot. -/
theorem exists_hasName_stem (hname : HasName path dots rest) (hrest : rest ≠ []) :
    exists front, front ≠ [] ∧ HasName (stem path) dots front := by
  cases hcut : Text.cutLast '.' rest with
  | none => exact ⟨rest, hrest, by rwa [hname.stem_eq_self (Text.cutLast_eq_none.mp hcut)]⟩
  | some halves =>
      rcases halves with ⟨front, ending⟩
      rcases Text.cutLast_eq_some hcut with ⟨rfl, hdot⟩
      have hstem : stem path = (cutName path).1 ++ (dots ++ front) := by
        rw [stem, hname.splitExtension_eq hdot]
      have hslash : '/' ∉ dots ++ front := by
        rcases exists_stem_eq path with ⟨kept, hkept, hslash⟩
        rw [hstem] at hkept
        rwa [List.append_cancel_left hkept]
      have hfront : front ≠ [] := by
        rintro rfl
        exact hname.head?_ne rfl
      refine ⟨front, hfront, ?_, hname.eq_dot, ?_⟩
      · rw [hstem, name, cutName_folder_append path hslash]
      · rw [← List.head?_append_of_ne_nil front hfront]
        exact hname.head?_ne

end HasName

/-!
## One extension after the other
-/

section Ending

variable {path ending : Text} (hdot : '.' ∉ ending) (hslash : '/' ∉ ending)

include hdot hslash

theorem splitExtension_withExtension (htitle : exists c, c ∈ name path ∧ c ≠ '.') :
    splitExtension (withExtension path ('.' :: ending)) = (stem path, '.' :: ending) := by
  have hback : '/' ∉ '.' :: ending := by simp [hslash]
  rcases exists_hasName path with ⟨dots, rest, hname⟩
  rcases hname.exists_hasName_stem (hname.exists_ne_dot_iff.mp htitle) with
    ⟨front, hfront, hstem⟩
  rw [withExtension, (hstem.append_of_ne_nil hfront hback).splitExtension_eq hdot,
    cutName_append_right _ hback, hstem.append_eq]

theorem stem_withExtension_of_dots (hdots : ¬ exists c, c ∈ name path ∧ c ≠ '.') :
    stem (withExtension path ('.' :: ending)) = stem path ++ '.' :: ending := by
  rcases exists_hasName path with ⟨dots, rest, hname⟩
  have hnil : rest = [] :=
    Classical.byContradiction fun hrest => hdots (hname.exists_ne_dot_iff.mpr hrest)
  rw [hnil] at hname
  rw [withExtension, hname.stem_eq_self List.not_mem_nil,
    (hname.append_of_nil hdot hslash).stem_eq_self hdot]

theorem stem_withExtension_iff :
    stem (withExtension path ('.' :: ending)) = stem path ↔
      exists c, c ∈ name path ∧ c ≠ '.' := by
  constructor
  · intro hstem
    refine Classical.byContradiction fun hdots => ?_
    rw [stem_withExtension_of_dots hdot hslash hdots, List.append_right_eq_self] at hstem
    cases hstem
  · intro htitle
    rw [stem, splitExtension_withExtension hdot hslash htitle]

end Ending

/--
Replacing an extension and then replacing the new one comes to replacing the old one, exactly
when the name is more than dots.  The directory stays the same, and different paths with the
same extension stay different.
-/
theorem extension_is_replaced_in_turn (path ending : Text) (hdot : '.' ∉ ending)
    (hslash : '/' ∉ ending) :
    ((exists c, c ∈ name path ∧ c ≠ '.') ↔
      forall extension, withExtension (withExtension path ('.' :: ending)) extension =
        withExtension path extension) ∧
    directory (withExtension path ('.' :: ending)) = directory path ∧
    forall other extension, other ≠ path ->
      (splitExtension other).2 = (splitExtension path).2 ->
        withExtension other extension ≠ withExtension path extension := by
  refine ⟨?_, directory_withExtension path (by simp [hslash]), ?_⟩
  · rw [← stem_withExtension_iff hdot hslash]
    constructor
    · intro hstem extension
      rw [withExtension, hstem, withExtension]
    · intro hall
      exact List.append_cancel_right (hall [])
  · intro other extension hne hextension hsame
    have hstem : stem other = stem path := List.append_cancel_right hsame
    apply hne
    rw [← stem_append_extension other, ← stem_append_extension path, hstem, hextension]

/-- Hidden files below a folder with a dot in its name, and a name of dots. -/
theorem extensions_of_samples :
    (forall extension,
      withExtension (withExtension "d.x/..a".toList ".m".toList) extension =
        withExtension "d.x/..a".toList extension) ∧
    directory (withExtension "d.x/..a".toList ".m".toList) = "d.x".toList ∧
    withExtension "d.x/..b".toList ".m".toList ≠ withExtension "d.x/..a".toList ".m".toList ∧
    ¬ forall extension, withExtension (withExtension "d.x/..".toList ".m".toList) extension =
      withExtension "d.x/..".toList extension := by
  have hhidden := extension_is_replaced_in_turn "d.x/..a".toList ['m'] (by decide)
    (by decide)
  have hdots := extension_is_replaced_in_turn "d.x/..".toList ['m'] (by decide)
    (by decide)
  refine ⟨hhidden.1.mp ⟨'a', by decide, by decide⟩, hhidden.2.1, ?_, ?_⟩
  · exact hhidden.2.2 "d.x/..b".toList _ (by decide) (by decide)
  · intro hall
    have hname : name "d.x/..".toList = ['.', '.'] := by decide
    rcases hdots.1.mpr hall with ⟨c, hc, hne⟩
    rw [hname] at hc
    exact hne (by simpa using hc)

end Path
end ProtoModules
