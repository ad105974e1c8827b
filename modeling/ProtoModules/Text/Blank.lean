import ProtoModules.Text.CharClass

/-!
# Blank characters

The characters that are trimmed from the ends of an option: the ASCII controls
that move the cursor, the four information separators, and the spaces and line
ends of Unicode.  The zero width space and the byte order mark are not blank.
-/

namespace ProtoModules
namespace Text

def blankRanges : List CodeRange := [
    (0x0009, 0x000D), (0x001C, 0x0020), (0x0085, 0x0085), (0x00A0, 0x00A0),
    (0x1680, 0x1680), (0x2000, 0x200A), (0x2028, 0x2029), (0x202F, 0x202F),
    (0x205F, 0x205F), (0x3000, 0x3000)]

def isBlank (c : Char) : Bool :=
  inRanges blankRanges c

def trim (text : Text) : Text :=
  dropEndWhile isBlank (text.dropWhile isBlank)

/-!
## What trimming leaves
-/

theorem dropEndWhile_append (test : Char -> Bool) (text : Text) :
    dropEndWhile test text ++ (text.reverse.takeWhile test).reverse = text := by
  rw [dropEndWhile, ← List.reverse_append, List.takeWhile_append_dropWhile, List.reverse_reverse]

/-- A text is what trimming leaves of it, with blanks on both sides. -/
theorem exists_blank_ends (text : Text) :
    exists front back, text = front ++ (trim text ++ back) ∧
      (forall c, c ∈ front -> isBlank c = true) ∧ (forall c, c ∈ back -> isBlank c = true) := by
  refine ⟨text.takeWhile isBlank, ((text.dropWhile isBlank).reverse.takeWhile isBlank).reverse,
    ?_, ?_, ?_⟩
  · rw [trim, dropEndWhile_append, List.takeWhile_append_dropWhile]
  · intro c hc
    exact List.all_eq_true.mp List.all_takeWhile c hc
  · intro c hc
    exact List.all_eq_true.mp List.all_takeWhile c (List.mem_reverse.mp hc)

theorem mem_of_mem_trim {text : Text} {c : Char} (hc : c ∈ trim text) : c ∈ text := by
  rcases exists_blank_ends text with ⟨front, back, htext, _, _⟩
  rw [htext]
  exact List.mem_append_right front (List.mem_append_left back hc)

theorem mem_trim {text : Text} {c : Char} (hblank : isBlank c = false) (hc : c ∈ text) :
    c ∈ trim text := by
  rcases exists_blank_ends text with ⟨front, back, htext, hfront, hback⟩
  have hends : forall {part : Text}, (forall c, c ∈ part -> isBlank c = true) -> c ∉ part := by
    intro part hpart hmem
    rw [hpart c hmem] at hblank
    cases hblank
  rw [htext, List.mem_append, List.mem_append] at hc
  exact (hc.resolve_left (hends hfront)).resolve_right (hends hback)

theorem isBlank_of_head?_dropWhile {text : Text} {c : Char}
    (hc : (text.dropWhile isBlank).head? = some c) : isBlank c = false := by
  have hnot := List.head?_dropWhile_not isBlank text
  rw [hc] at hnot
  exact hnot

theorem isBlank_of_head?_trim {text : Text} {c : Char} (hc : (trim text).head? = some c) :
    isBlank c = false := by
  have hsplit := dropEndWhile_append isBlank (text.dropWhile isBlank)
  apply isBlank_of_head?_dropWhile
  rw [← hsplit, List.head?_append, ← trim, hc]
  rfl

theorem isBlank_of_getLast?_dropEndWhile {text : Text} {c : Char}
    (hc : (dropEndWhile isBlank text).getLast? = some c) : isBlank c = false := by
  rw [dropEndWhile, List.getLast?_reverse] at hc
  exact isBlank_of_head?_dropWhile hc

theorem dropWhile_eq_self {test : Char -> Bool} {text : Text}
    (hhead : forall c, text.head? = some c -> test c = false) : text.dropWhile test = text := by
  cases text with
  | nil => rfl
  | cons c rest =>
      apply List.dropWhile_cons_of_neg
      rw [hhead c rfl]
      exact Bool.false_ne_true

/-- Trimming leaves the part of a text that has blanks on both sides and none at its ends. -/
theorem trim_of_blank_ends {front core back : Text}
    (hfront : forall c, c ∈ front -> isBlank c = true)
    (hback : forall c, c ∈ back -> isBlank c = true)
    (hhead : forall c, core.head? = some c -> isBlank c = false)
    (hlast : forall c, core.getLast? = some c -> isBlank c = false) :
    trim (front ++ (core ++ back)) = core := by
  rw [trim, List.dropWhile_append_of_pos hfront]
  cases core with
  | nil =>
      have hnone : (back ++ []).dropWhile isBlank = [] := List.dropWhile_append_of_pos hback
      rw [List.append_nil] at hnone
      rw [List.nil_append, hnone]
      rfl
  | cons c rest =>
      have hstart : (c :: rest ++ back).dropWhile isBlank = c :: rest ++ back :=
        dropWhile_eq_self hhead
      have hend : (c :: rest).reverse.dropWhile isBlank = (c :: rest).reverse := by
        apply dropWhile_eq_self
        intro last hreverse
        rw [List.head?_reverse] at hreverse
        exact hlast last hreverse
      rw [hstart, dropEndWhile, List.reverse_append, List.dropWhile_append_of_pos, hend,
        List.reverse_reverse]
      intro d hd
      exact hback d (List.mem_reverse.mp hd)

theorem trim_trim (text : Text) : trim (trim text) = trim text := by
  have hnone : forall c, c ∈ ([] : Text) -> isBlank c = true :=
    fun _ hc => absurd hc List.not_mem_nil
  have htrim : trim ([] ++ (trim text ++ [])) = trim text :=
    trim_of_blank_ends hnone hnone (fun _ => isBlank_of_head?_trim)
      (fun _ => isBlank_of_getLast?_dropEndWhile)
  rwa [List.nil_append, List.append_nil] at htrim

theorem trim_append_of_blank (text : Text) {back : Text}
    (hback : forall c, c ∈ back -> isBlank c = true) : trim (text ++ back) = trim text := by
  rcases exists_blank_ends text with ⟨front, rest, htext, hfront, hrest⟩
  have hsplit : text ++ back = front ++ (trim text ++ (rest ++ back)) := by
    calc
      text ++ back = front ++ (trim text ++ rest) ++ back := by rw [← htext]
      _ = front ++ (trim text ++ (rest ++ back)) := by simp only [List.append_assoc]
  rw [hsplit]
  apply trim_of_blank_ends hfront
  · intro c hc
    rcases List.mem_append.mp hc with hc | hc
    · exact hrest c hc
    · exact hback c hc
  · exact fun _ => isBlank_of_head?_trim
  · exact fun _ => isBlank_of_getLast?_dropEndWhile

theorem trim_dropEndWhile (text : Text) : trim (dropEndWhile isBlank text) = trim text := by
  have hblank : forall c, c ∈ (text.reverse.takeWhile isBlank).reverse -> isBlank c = true :=
    fun c hc => List.all_eq_true.mp List.all_takeWhile c (List.mem_reverse.mp hc)
  rw [← trim_append_of_blank (dropEndWhile isBlank text) hblank, dropEndWhile_append]

end Text
end ProtoModules
