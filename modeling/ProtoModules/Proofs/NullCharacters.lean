import ProtoModules.Proofs.Answers
import ProtoModules.Proofs.DiskWrites
import ProtoModules.Proofs.PlainNames

/-!
# Null characters in paths

A path with a null character is refused whatever the disk holds.  Cutting a path and tidying it
up bring no null character into it, so where writing a file is refused for one, it stands in the
path of the file.
-/

namespace ProtoModules

/-!
## Where the characters of a path come from
-/

namespace Text

theorem mem_of_mem_dropEndWhile {test : Char -> Bool} {text : Text} {c : Char}
    (hc : c ∈ dropEndWhile test text) : c ∈ text := by
  have hkept : c ∈ text.reverse.dropWhile test := List.mem_reverse.mp hc
  exact List.mem_reverse.mp ((List.dropWhile_sublist test).subset hkept)

end Text

namespace Path

theorem mem_of_mem_withoutEndSlashes {path : Text} {c : Char}
    (hc : c ∈ withoutEndSlashes path) : c ∈ path := by
  unfold withoutEndSlashes at hc
  split at hc
  · exact hc
  · exact Text.mem_of_mem_dropEndWhile hc

theorem mem_of_mem_directory {path : Text} {c : Char} (hc : c ∈ directory path) : c ∈ path := by
  rw [← cutName_append path]
  exact List.mem_append_left _ (mem_of_mem_withoutEndSlashes hc)

theorem mem_of_mem_trimmed {path : Text} {c : Char} (hc : c ∈ trimmed path) : c ∈ path := by
  unfold trimmed at hc
  split at hc
  · exact mem_of_mem_directory hc
  · exact hc

theorem mem_of_mem_parent {path : Text} {c : Char} (hc : c ∈ parent path) : c ∈ path :=
  mem_of_mem_trimmed (mem_of_mem_directory hc)

theorem eq_slash_of_mem_root {path : Text} {c : Char} (hc : c ∈ root path) : c = '/' := by
  by_cases habsolute : isAbsolute path = true
  · rcases root_of_isAbsolute habsolute with hroot | hroot
    · rw [hroot] at hc
      exact List.mem_singleton.mp hc
    · rw [hroot] at hc
      exact (List.mem_cons.mp hc).elim id List.mem_singleton.mp
  · rw [root_of_not_isAbsolute (Bool.not_eq_true _ ▸ habsolute)] at hc
    cases hc

theorem mem_of_mem_namedComponents {path part : Text} {c : Char}
    (hpart : part ∈ namedComponents path) (hc : c ∈ part) : c ∈ path :=
  Text.mem_of_mem_splitOn (List.mem_of_mem_filter hpart) hc

theorem nul_mem_of_nul_mem_tidy {path : Text} (hnul : nul ∈ tidy path) : nul ∈ path := by
  rcases tidy_cases path with htidy | ⟨_, _, htidy⟩
  · rw [htidy, List.mem_append] at hnul
    rcases hnul with hroot | hjoined
    · exact absurd (eq_slash_of_mem_root hroot) (by decide)
    · rcases Text.mem_of_mem_joined hjoined with hslash | ⟨part, hpart, hnul⟩
      · exact absurd hslash (by decide)
      · exact mem_of_mem_namedComponents hpart hnul
  · rw [htidy] at hnul
    exact absurd hnul (by decide)

end Path

/-!
## Refused paths
-/

namespace Disk

variable {disk after : Disk} {workDir : Path.Place} {path : Text}

theorem follow_ne_nullByte (disk : Disk) (place : Path.Place) (component : Text) :
    disk.follow place component ≠ .error .nullByte := by
  unfold follow
  split
  · simp
  · simp
  · split <;> simp

theorem foldlM_follow_ne_nullByte (disk : Disk) (components : List Text) (start : Path.Place) :
    components.foldlM disk.follow start ≠ .error .nullByte := by
  induction components generalizing start with
  | nil => exact fun hrefused => nomatch hrefused
  | cons component rest ih =>
      rw [List.foldlM_cons]
      intro hrefused
      rcases bind_eq_error_iff.mp hrefused with hstep | ⟨next, _, hrest⟩
      · exact follow_ne_nullByte disk start component hstep
      · exact ih next hrest

theorem locate_eq_nullByte_iff {components : List Text} :
    disk.locate workDir path components = .error .nullByte ↔ Path.nul ∈ path := by
  unfold locate
  by_cases hnul : Path.nul ∈ path
  · simp [hnul]
  · rw [if_neg hnul]
    refine iff_of_false ?_ hnul
    split
    · simp
    · split
      · simp
      · exact foldlM_follow_ne_nullByte disk components _

theorem blame_eq_error_iff {α : Type} {attempt : Except FaultKind α} {fault : Fault} :
    blame path attempt = .error fault ↔ attempt = .error fault.kind ∧ fault.path = path := by
  rcases fault with ⟨kind, place⟩
  cases attempt with
  | ok found => simp [blame, Except.mapError]
  | error other => simp [blame, Except.mapError, eq_comm]

/-- A step behind the search for a place is refused for nothing but the path. -/
theorem nul_mem_of_blame {α β : Type} {attempt : Except FaultKind α}
    {next : α -> Except FaultKind β} {fault : Fault}
    (hrefused : blame path (attempt >>= next) = .error fault) (hkind : fault.kind = .nullByte)
    (hattempt : attempt = .error .nullByte -> Path.nul ∈ path)
    (hnext : forall found, next found ≠ .error .nullByte) : Path.nul ∈ path := by
  rw [blame_eq_error_iff, hkind] at hrefused
  rcases bind_eq_error_iff.mp hrefused.1 with hfailed | ⟨found, _, hfailed⟩
  · exact hattempt hfailed
  · exact absurd hfailed (hnext found)

theorem nul_mem_of_makeDirectory {fault : Fault}
    (hrefused : disk.makeDirectory workDir path = .error fault)
    (hkind : fault.kind = .nullByte) : Path.nul ∈ path := by
  refine nul_mem_of_blame hrefused hkind locate_eq_nullByte_iff.mp ?_
  intro place
  cases disk.node? place <;> simp

theorem nul_mem_of_writeFile {content : Bytes} {fault : Fault}
    (hrefused : disk.writeFile workDir path content = .error fault)
    (hkind : fault.kind = .nullByte) : Path.nul ∈ path := by
  refine nul_mem_of_blame hrefused hkind locate_eq_nullByte_iff.mp ?_
  intro place
  split <;> simp

theorem nul_mem_of_nodeAt (hrefused : disk.nodeAt workDir path = .error .nullByte) :
    Path.nul ∈ path := by
  rcases bind_eq_error_iff.mp hrefused with hfailed | ⟨place, _, hfailed⟩
  · exact locate_eq_nullByte_iff.mp hfailed
  · cases hnode : disk.node? place <;> simp [hnode] at hfailed

theorem nul_mem_of_readFile {fault : Fault}
    (hrefused : disk.readFile workDir path = .error fault)
    (hkind : fault.kind = .nullByte) : Path.nul ∈ path := by
  refine nul_mem_of_blame hrefused hkind nul_mem_of_nodeAt ?_
  intro node
  cases node <;> simp

theorem nul_mem_of_ensureDirectory {fault : Fault}
    (hrefused : disk.ensureDirectory workDir path = (after, some fault))
    (hkind : fault.kind = .nullByte) : Path.nul ∈ path := by
  unfold ensureDirectory at hrefused
  split at hrefused
  · cases hrefused
  · rename_i other hother
    split at hrefused
    · cases hrefused
    · cases hrefused
      exact nul_mem_of_makeDirectory hother hkind

/-- The directory that could not be made may be one above, whose path is a part of the path. -/
theorem nul_mem_of_makeDirectories {fault : Fault}
    (hrefused : disk.makeDirectories workDir path = (after, some fault))
    (hkind : fault.kind = .nullByte) : Path.nul ∈ path := by
  fun_induction makeDirectories disk workDir path with
  | case1 path _ parent _ above stop hparent _ ih =>
      cases hrefused
      exact Path.mem_of_mem_parent (ih hparent)
  | case2 path _ parent _ above stop hparent _ _ ih => cases hrefused
  | case3 path _ parent _ above stop hparent _ _ ih =>
      exact nul_mem_of_ensureDirectory hrefused hkind
  | case4 path _ parent _ => exact nul_mem_of_ensureDirectory hrefused hkind
  | case5 path _ => exact nul_mem_of_ensureDirectory hrefused hkind

theorem nul_mem_of_writeDeep {content : Bytes} {fault : Fault}
    (hrefused : disk.writeDeep workDir path content = (after, some fault))
    (hkind : fault.kind = .nullByte) : Path.nul ∈ path := by
  unfold writeDeep at hrefused
  split at hrefused
  · rename_i made stop hmade
    cases hrefused
    exact Path.mem_of_mem_directory (nul_mem_of_makeDirectories hmade hkind)
  · split at hrefused
    · cases hrefused
    · rename_i stop hstop
      cases hrefused
      exact Path.nul_mem_of_nul_mem_tidy (nul_mem_of_writeFile hstop hkind)

end Disk
end ProtoModules
