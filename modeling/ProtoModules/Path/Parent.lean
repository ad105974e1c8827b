import ProtoModules.Path.Basic

/-!
# The directory above

The directory above the one that a path names, with or without slashes at the end
of the path.  It is shorter than the path, so going up comes to an end.
-/

namespace ProtoModules
namespace Path

theorem length_withoutEndSlashes_le (path : Text) :
    (withoutEndSlashes path).length ≤ path.length := by
  unfold withoutEndSlashes
  split
  · exact Nat.le_refl _
  · exact Text.length_dropEndWhile_le _ _

theorem cutName_append (path : Text) : (cutName path).1 ++ (cutName path).2 = path := by
  unfold cutName
  cases h : Text.cutLast '/' path with
  | none => simp
  | some halves => simp [(Text.cutLast_eq_some h).1]

theorem length_directory_add_name_le (path : Text) :
    (directory path).length + (name path).length ≤ path.length := by
  have h := congrArg List.length (cutName_append path)
  have := length_withoutEndSlashes_le (cutName path).1
  simp only [List.length_append] at h
  simp only [directory, name]
  omega

def trimmed (path : Text) : Text :=
  if name path = [] then directory path else path

def parent (path : Text) : Text :=
  directory (trimmed path)

theorem length_parent_lt {path : Text} (h : name (trimmed path) ≠ []) :
    (parent path).length < path.length := by
  have hname := List.length_pos_iff.mpr h
  have hparent := length_directory_add_name_le (trimmed path)
  have htrimmed : (trimmed path).length ≤ path.length := by
    unfold trimmed
    split
    · have := length_directory_add_name_le path
      omega
    · exact Nat.le_refl _
  unfold parent
  omega

end Path
end ProtoModules
