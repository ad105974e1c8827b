import ProtoModules.Text.Basic

/-!
# Character classes as code point ranges

A class of characters is written down as the ascending list of its ranges of
code points, both ends included.
-/

namespace ProtoModules
namespace Text

/-- The first and the last code point of a block of neighbouring characters. -/
abbrev CodeRange := Nat × Nat

def inRanges (ranges : List CodeRange) (c : Char) : Bool :=
  ranges.any fun range => range.1 <= c.toNat && c.toNat <= range.2

theorem inRanges_iff {ranges : List CodeRange} {c : Char} :
    inRanges ranges c = true ↔
      ∃ range ∈ ranges, range.1 ≤ c.toNat ∧ c.toNat ≤ range.2 := by
  simp [inRanges]

end Text
end ProtoModules
