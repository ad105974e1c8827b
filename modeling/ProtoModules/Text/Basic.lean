/-!
# Text

A text is the list of its code points.  Everything the library reads, compares
or writes is a text in this sense, so that the first character, the order of
two names and the length of a suffix are the ones of the list.  This module
collects the ways of cutting a text that the other modules share.
-/

namespace ProtoModules

/-- A text is the list of its code points. -/
abbrev Text := List Char

namespace Text

/--
Cut a text at the first occurrence of a separator.  The separator belongs to
neither half, and there is no cut when it does not occur.
-/
def cutFirst (sep : Char) : Text -> Option (Text × Text)
  | [] => none
  | c :: rest =>
      if c = sep then some ([], rest)
      else (cutFirst sep rest).map fun halves => (c :: halves.1, halves.2)

def cutLast (sep : Char) : Text -> Option (Text × Text)
  | [] => none
  | c :: rest =>
      match cutLast sep rest with
      | some (before, after) => some (c :: before, after)
      | none => if c = sep then some ([], rest) else none

def beforeFirst (sep : Char) (text : Text) : Text :=
  text.takeWhile (· ≠ sep)

def afterLast (sep : Char) (text : Text) : Text :=
  match cutLast sep text with
  | some (_, after) => after
  | none => text

def includes (part : Text) : Text -> Bool
  | [] => part.isEmpty
  | c :: rest => part.isPrefixOf (c :: rest) || includes part rest

def replaceChar (old new : Char) (text : Text) : Text :=
  text.map fun c => if c = old then new else c

def dropEndWhile (test : Char -> Bool) (text : Text) : Text :=
  (text.reverse.dropWhile test).reverse

def ofInt (n : Int) : Text :=
  if n < 0 then '-' :: Nat.toDigits 10 n.natAbs else Nat.toDigits 10 n.natAbs

def joined (sep : String) (parts : List Text) : Text :=
  sep.toList.intercalate parts

/-!
## Where the cuts fall
-/

theorem cutFirst_eq_some {sep : Char} {text before after : Text}
    (h : cutFirst sep text = some (before, after)) :
    text = before ++ sep :: after ∧ sep ∉ before := by
  induction text generalizing before with
  | nil => simp [cutFirst] at h
  | cons c rest ih =>
      by_cases hc : c = sep
      · simp [cutFirst, hc] at h
        obtain ⟨rfl, rfl⟩ := h
        simp [hc]
      · simp [cutFirst, hc] at h
        obtain ⟨head, hcut, hhead⟩ := h
        have hrest := ih hcut
        subst hhead
        exact ⟨by simp [hrest.1], by simp [hrest.2, Ne.symm hc]⟩

theorem cutFirst_append {sep : Char} {before : Text} (hsep : sep ∉ before) (after : Text) :
    cutFirst sep (before ++ sep :: after) = some (before, after) := by
  induction before with
  | nil => simp [cutFirst]
  | cons c rest ih =>
      rw [List.mem_cons, not_or] at hsep
      simp [cutFirst, Ne.symm hsep.1, ih hsep.2]

theorem cutFirst_eq_none {sep : Char} {text : Text} :
    cutFirst sep text = none ↔ sep ∉ text := by
  induction text with
  | nil => simp [cutFirst]
  | cons c rest ih =>
      by_cases hc : c = sep
      · simp [cutFirst, hc]
      · simp [cutFirst, hc, ih, Ne.symm hc]

theorem cutLast_eq_none {sep : Char} {text : Text} :
    cutLast sep text = none ↔ sep ∉ text := by
  induction text with
  | nil => simp [cutLast]
  | cons c rest ih =>
      cases hcut : cutLast sep rest with
      | none =>
          have hrest := ih.mp hcut
          by_cases hc : c = sep
          · simp [cutLast, hcut, hc]
          · simp [cutLast, hcut, hc, hrest, Ne.symm hc]
      | some halves =>
          have hrest : sep ∈ rest := by
            refine Classical.byContradiction fun hnot => ?_
            simp [ih.mpr hnot] at hcut
          simp [cutLast, hcut, hrest]

theorem cutLast_eq_some {sep : Char} {text before after : Text}
    (h : cutLast sep text = some (before, after)) :
    text = before ++ sep :: after ∧ sep ∉ after := by
  induction text generalizing before with
  | nil => simp [cutLast] at h
  | cons c rest ih =>
      cases hcut : cutLast sep rest with
      | none =>
          by_cases hc : c = sep
          · simp [cutLast, hcut, hc] at h
            have hrest := cutLast_eq_none.mp hcut
            simp [← h.1, ← h.2, hc, hrest]
          · simp [cutLast, hcut, hc] at h
      | some halves =>
          obtain ⟨head, tail⟩ := halves
          simp [cutLast, hcut] at h
          obtain ⟨hhead, htail⟩ := h
          subst hhead
          subst htail
          have hrest := ih hcut
          exact ⟨by simp [hrest.1], hrest.2⟩

theorem splitOn_cons {sep c : Char} (hc : c ≠ sep) (text : Text) :
    exists first rest, text.splitOn sep = first :: rest ∧
      (c :: text).splitOn sep = (c :: first) :: rest := by
  cases hpieces : text.splitOn sep with
  | nil => exact absurd hpieces (List.splitOn_ne_nil sep text)
  | cons first rest =>
      refine ⟨first, rest, rfl, ?_⟩
      rw [List.splitOn_cons_eq_if_modifyHead, if_neg (by simpa using hc), hpieces,
        List.modifyHead_cons]

theorem splitOn_sep (sep : Char) (text : Text) :
    (sep :: text).splitOn sep = [] :: text.splitOn sep := by
  rw [List.splitOn_cons_eq_if_modifyHead, if_pos (beq_self_eq_true sep)]

/-- What stands in front of a text and has no separator in it belongs to the first piece. -/
theorem splitOn_append {sep : Char} {front : Text} (hsep : sep ∉ front) (text : Text) :
    exists first rest, text.splitOn sep = first :: rest ∧
      (front ++ text).splitOn sep = (front ++ first) :: rest := by
  induction front with
  | nil =>
      cases hpieces : text.splitOn sep with
      | nil => exact absurd hpieces (List.splitOn_ne_nil sep text)
      | cons first rest => exact ⟨first, rest, rfl, hpieces⟩
  | cons c others ih =>
      rw [List.mem_cons, not_or] at hsep
      rcases ih hsep.2 with ⟨first, rest, htext, hothers⟩
      rcases splitOn_cons (Ne.symm hsep.1) (others ++ text) with ⟨piece, more, hpieces, hcons⟩
      rw [hothers] at hpieces
      cases hpieces
      exact ⟨first, rest, htext, hcons⟩

theorem not_mem_of_mem_splitOn {sep : Char} {text piece : Text}
    (hpiece : piece ∈ text.splitOn sep) : sep ∉ piece := by
  induction text generalizing piece with
  | nil =>
      rw [List.splitOn_nil, List.mem_singleton] at hpiece
      rw [hpiece]
      exact List.not_mem_nil
  | cons c rest ih =>
      by_cases hc : c = sep
      · rw [hc, splitOn_sep] at hpiece
        rcases List.mem_cons.mp hpiece with rfl | hpiece
        · exact List.not_mem_nil
        · exact ih hpiece
      · rcases splitOn_cons hc rest with ⟨first, others, hrest, hcons⟩
        rw [hrest] at ih
        rw [hcons] at hpiece
        rcases List.mem_cons.mp hpiece with rfl | hpiece
        · simp [Ne.symm hc, ih List.mem_cons_self]
        · exact ih (List.mem_cons_of_mem first hpiece)

theorem length_dropEndWhile_le (test : Char -> Bool) (text : Text) :
    (dropEndWhile test text).length ≤ text.length := by
  have h : (text.reverse.dropWhile test).length ≤ text.reverse.length :=
    (List.dropWhile_sublist test).length_le
  simpa [dropEndWhile] using h

end Text
end ProtoModules
