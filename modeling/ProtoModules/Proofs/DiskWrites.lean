import ProtoModules.Job
import ProtoModules.Proofs.Specifiers

/-!
# What writing changes on a disk

Making directories leaves every file as it is.  Writing a file sets the one file at the place
that its path leads to, or fails and leaves every file as it is.  So after modules were
written in turn, each place holds the last of those that were written there, and any other
place holds what it held before.
-/

namespace ProtoModules

/-!
## Tidy paths lead to the same place
-/

namespace Path

theorem foldl_step_filter (parts : List Text) (start : Place) :
    (parts.filter fun part => !part.isEmpty && part != here).foldl step start =
      parts.foldl step start := by
  induction parts generalizing start with
  | nil => rfl
  | cons part rest ih =>
      by_cases hstays : part = [] ∨ part = here
      · have hdropped : ¬ (!part.isEmpty && part != here) = true := by
          rcases hstays with rfl | rfl <;> decide
        rw [List.filter_cons, if_neg hdropped, ih, List.foldl_cons, step, if_pos hstays]
      · have hkept : (!part.isEmpty && part != here) = true := by
          rw [not_or] at hstays
          simp [hstays.1, hstays.2]
        rw [List.filter_cons, if_pos hkept, List.foldl_cons, List.foldl_cons, ih]

theorem foldl_step_namedComponents (path : Text) (start : Place) :
    (namedComponents path).foldl step start = (components path).foldl step start :=
  foldl_step_filter (components path) start

theorem namedComponents_append (front back : Text) :
    namedComponents (front ++ '/' :: back) = namedComponents front ++ namedComponents back := by
  rw [namedComponents, components_append, List.filter_append]
  rfl

theorem namedComponents_slash (path : Text) :
    namedComponents ('/' :: path) = namedComponents path :=
  namedComponents_append [] path

theorem of_mem_namedComponents {path part : Text} (hpart : part ∈ namedComponents path) :
    part ≠ [] ∧ '/' ∉ part := by
  rcases List.mem_filter.mp hpart with ⟨hmem, htest⟩
  refine ⟨?_, slash_not_mem_of_mem_components hmem⟩
  rintro rfl
  cases htest

theorem namedComponents_joined (path : Text) :
    namedComponents (Text.joined "/" (namedComponents path)) = namedComponents path := by
  by_cases hnone : namedComponents path = []
  · rw [hnone]
    rfl
  · have hparts := components_joined (fun _ hpart => (of_mem_namedComponents hpart).2) hnone
    rw [namedComponents, hparts, namedComponents, List.filter_filter]
    simp only [Bool.and_self]

theorem root_of_isAbsolute {path : Text} (habsolute : isAbsolute path = true) :
    root path = ['/'] ∨ root path = ['/', '/'] := by
  unfold root
  split
  · exact Or.inl rfl
  · exact Or.inr rfl
  · exact Or.inl rfl
  · rename_i hother
    cases path with
    | nil => cases habsolute
    | cons c rest =>
        have hslash : c = '/' := by simpa [isAbsolute] using habsolute
        exact absurd (hslash ▸ rfl) (hother rest)

theorem root_of_not_isAbsolute {path : Text} (hrelative : isAbsolute path = false) :
    root path = [] := by
  unfold root
  split
  · cases hrelative
  · cases hrelative
  · cases hrelative
  · rfl

/-- What a path begins with is no slash if its first component names something. -/
theorem isAbsolute_joined {parts : List Text}
    (hparts : forall part, part ∈ parts -> part ≠ [] ∧ '/' ∉ part) :
    isAbsolute (Text.joined "/" parts) = false := by
  cases parts with
  | nil => rfl
  | cons first rest =>
      rcases hparts first List.mem_cons_self with ⟨hsome, hslash⟩
      cases first with
      | nil => exact absurd rfl hsome
      | cons c others =>
          have hne : c ≠ '/' := fun heq => hslash (heq ▸ List.mem_cons_self)
          cases rest <;> simp [isAbsolute, Text.joined, List.intercalate, hne]

theorem tidy_cases (path : Text) :
    tidy path = root path ++ Text.joined "/" (namedComponents path) ∨
      (isAbsolute path = false ∧ namedComponents path = [] ∧ tidy path = here) := by
  unfold tidy
  cases hpath : root path ++ Text.joined "/" (namedComponents path) with
  | cons c rest => exact Or.inl rfl
  | nil =>
      rcases List.append_eq_nil_iff.mp hpath with ⟨hroot, hjoined⟩
      refine Or.inr ⟨?_, ?_, rfl⟩
      · by_contra habsolute
        rw [Bool.not_eq_false] at habsolute
        rcases root_of_isAbsolute habsolute with hslash | hslash <;> simp [hslash] at hroot
      · rw [← namedComponents_joined, hjoined]
        rfl

theorem isAbsolute_tidy (path : Text) : isAbsolute (tidy path) = isAbsolute path := by
  rcases tidy_cases path with htidy | ⟨hrelative, _, htidy⟩
  · rw [htidy]
    by_cases habsolute : isAbsolute path = true
    · rw [habsolute]
      rcases root_of_isAbsolute habsolute with hroot | hroot <;> rw [hroot] <;> rfl
    · rw [Bool.not_eq_true] at habsolute
      rw [root_of_not_isAbsolute habsolute, habsolute]
      exact isAbsolute_joined fun _ => of_mem_namedComponents
  · rw [htidy, hrelative]
    rfl

theorem namedComponents_tidy (path : Text) :
    namedComponents (tidy path) = namedComponents path := by
  rcases tidy_cases path with htidy | ⟨_, hnone, htidy⟩
  · rw [htidy]
    by_cases habsolute : isAbsolute path = true
    · rcases root_of_isAbsolute habsolute with hroot | hroot
      · rw [hroot, List.singleton_append, namedComponents_slash, namedComponents_joined]
      · rw [hroot, List.cons_append, List.singleton_append, namedComponents_slash,
          namedComponents_slash, namedComponents_joined]
    · rw [Bool.not_eq_true] at habsolute
      rw [root_of_not_isAbsolute habsolute, List.nil_append, namedComponents_joined]
  · rw [htidy, hnone]
    rfl

theorem place_tidy (workDir : Place) (path : Text) :
    place workDir (tidy path) = place workDir path := by
  rw [place, place, isAbsolute_tidy, ← foldl_step_namedComponents, namedComponents_tidy,
    foldl_step_namedComponents]

end Path

/-!
## Directories
-/

namespace Disk

def file? (disk : Disk) (place : Path.Place) : Option Bytes :=
  match disk.node? place with
  | some (.file content) => some content
  | _ => none

theorem file?_put_directory {disk : Disk} {place : Path.Place} (hfree : disk.node? place = none)
    (other : Path.Place) : (disk.put place .directory).file? other = disk.file? other := by
  unfold file?
  by_cases hother : other = place
  · have hplace : place ≠ [] := by
      intro hroot
      rw [hroot] at hfree
      cases hfree
    rw [hother, node?_put_self hplace, hfree]
  · rw [node?_put_of_ne hother]

theorem file?_put_file {disk : Disk} {place : Path.Place} (hplace : place ≠ [])
    (content : Bytes) (other : Path.Place) :
    (disk.put place (.file content)).file? other =
      if place = other then some content else disk.file? other := by
  unfold file?
  by_cases hother : place = other
  · rw [if_pos hother, ← hother, node?_put_self hplace]
  · rw [if_neg hother, node?_put_of_ne (Ne.symm hother)]

theorem blame_bind_eq_ok_iff {α β : Type} {path : Text} {attempt : Except FaultKind α}
    {next : α -> Except FaultKind β} {result : β} :
    blame path (attempt >>= next) = .ok result ↔
      exists found, attempt = .ok found ∧ next found = .ok result := by
  cases attempt with
  | error kind => simp [blame, Bind.bind, Except.bind, Except.mapError]
  | ok found =>
      cases hnext : next found <;>
        simp [blame, Bind.bind, Except.bind, Except.mapError, hnext]

theorem file?_of_makeDirectory {disk after : Disk} {workDir : Path.Place} {path : Text}
    (hmade : disk.makeDirectory workDir path = .ok after) (place : Path.Place) :
    after.file? place = disk.file? place := by
  rcases blame_bind_eq_ok_iff.mp hmade with ⟨target, _, hput⟩
  cases hnode : disk.node? target with
  | some node =>
      rw [hnode] at hput
      cases hput
  | none =>
      rw [hnode] at hput
      cases hput
      exact file?_put_directory hnode place

theorem file?_ensureDirectory (disk : Disk) (workDir : Path.Place) (path : Text)
    (place : Path.Place) :
    (disk.ensureDirectory workDir path).1.file? place = disk.file? place := by
  unfold ensureDirectory
  split
  · rename_i after hmade
    exact file?_of_makeDirectory hmade place
  · split <;> rfl

theorem file?_makeDirectories (disk : Disk) (workDir : Path.Place) (path : Text)
    (place : Path.Place) :
    (disk.makeDirectories workDir path).1.file? place = disk.file? place := by
  fun_induction makeDirectories disk workDir path with
  | case1 path _ parent _ above fault hparent _ ih =>
      rw [hparent] at ih
      exact ih
  | case2 path _ parent _ above fault hparent _ _ ih =>
      rw [hparent] at ih
      exact ih
  | case3 path _ parent _ above fault hparent _ _ ih =>
      rw [hparent] at ih
      rw [file?_ensureDirectory]
      exact ih
  | case4 path _ parent _ => exact file?_ensureDirectory disk workDir path place
  | case5 path _ => exact file?_ensureDirectory disk workDir path place

/-!
## Files
-/

theorem eq_foldl_step_of_foldlM {disk : Disk} {parts : List Text} {start place : Path.Place}
    (hfollowed : parts.foldlM disk.follow start = .ok place) :
    place = parts.foldl Path.step start := by
  induction parts generalizing start with
  | nil =>
      cases hfollowed
      rfl
  | cons part rest ih =>
      rw [List.foldlM_cons] at hfollowed
      cases hstep : disk.follow start part with
      | error kind =>
          rw [hstep] at hfollowed
          cases hfollowed
      | ok next =>
          rw [hstep] at hfollowed
          have hnext : next = Path.step start part := by
            unfold follow at hstep
            split at hstep
            · cases hstep
            · cases hstep
            · split at hstep
              · exact (Except.ok.inj hstep).symm
              · cases hstep
          rw [List.foldl_cons, ← hnext]
          exact ih hfollowed

theorem foldlM_follow_of_locate {disk : Disk} {workDir : Path.Place} {path : Text}
    {components : List Text} {target : Path.Place}
    (hlocated : disk.locate workDir path components = .ok target) :
    components.foldlM disk.follow (if Path.isAbsolute path then [] else workDir) =
      .ok target := by
  unfold locate at hlocated
  split at hlocated
  · cases hlocated
  · split at hlocated
    · cases hlocated
    · split at hlocated
      · cases hlocated
      · exact hlocated

theorem eq_place_of_locate {disk : Disk} {workDir : Path.Place} {path : Text}
    {target : Path.Place}
    (hlocated : disk.locate workDir path (Path.namedComponents path) = .ok target) :
    target = Path.place workDir path := by
  rw [eq_foldl_step_of_foldlM (foldlM_follow_of_locate hlocated),
    Path.foldl_step_namedComponents]
  rfl

theorem file?_of_writeFile {disk after : Disk} {workDir : Path.Place} {path : Text}
    {content : Bytes} (hwritten : disk.writeFile workDir path content = .ok after)
    (place : Path.Place) :
    after.file? place =
      if Path.place workDir path = place then some content else disk.file? place := by
  rcases blame_bind_eq_ok_iff.mp hwritten with ⟨target, hlocated, hput⟩
  have hnode : disk.node? target ≠ some .directory := by
    intro hdirectory
    rw [hdirectory] at hput
    cases hput
  have hafter : after = disk.put target (.file content) := by
    cases hfound : disk.node? target with
    | none =>
        rw [hfound] at hput
        exact (Except.ok.inj hput).symm
    | some node =>
        rw [hfound] at hput hnode
        cases node with
        | directory => exact absurd rfl hnode
        | file other => exact (Except.ok.inj hput).symm
  have hplace : target ≠ [] := by
    intro hroot
    exact hnode (by rw [hroot]; rfl)
  rw [hafter, file?_put_file hplace, eq_place_of_locate hlocated]

/-- Writing a file sets the file at the place of its path, if it changes any file at all. -/
theorem file?_of_writeDeep {disk after : Disk} {workDir : Path.Place} {path : Text}
    {content : Bytes} {fault : Option Fault}
    (hwritten : disk.writeDeep workDir path content = (after, fault)) (place : Path.Place) :
    after.file? place =
      match fault with
      | some _ => disk.file? place
      | none => if Path.place workDir path = place then some content else disk.file? place := by
  have hmade := file?_makeDirectories disk workDir (Path.directory path) place
  unfold writeDeep at hwritten
  split at hwritten
  · rename_i made fault hdirectories
    rw [hdirectories] at hmade
    cases hwritten
    exact hmade
  · rename_i made hdirectories
    rw [hdirectories] at hmade
    split at hwritten
    · rename_i written hfile
      cases hwritten
      simp only
      rw [file?_of_writeFile hfile, Path.place_tidy, hmade]
    · cases hwritten
      exact hmade

end Disk

/-!
## Modules
-/

namespace Job

def target (workDir : Path.Place) (out : Text) (output : OutputFile) : Path.Place :=
  Path.place workDir (Path.join out output.name)

def lastAt (workDir : Path.Place) (out : Text) (outputs : List OutputFile)
    (place : Path.Place) : Option OutputFile :=
  (outputs.filter fun output => target workDir out output = place).getLast?

theorem lastAt_cons (workDir : Path.Place) (out : Text) (output : OutputFile)
    (outputs : List OutputFile) (place : Path.Place) :
    lastAt workDir out (output :: outputs) place =
      (lastAt workDir out outputs place).or
        (if target workDir out output = place then some output else none) := by
  unfold lastAt
  by_cases htarget : target workDir out output = place
  · rw [List.filter_cons_of_pos (by simpa using htarget), List.getLast?_cons, if_pos htarget]
    cases (outputs.filter fun output => target workDir out output = place).getLast? <;> rfl
  · rw [List.filter_cons_of_neg (by simpa using htarget), if_neg htarget, Option.or_none]

/--
Modules are written one after the other up to the first fault, and every place then holds the
last of the modules that were written there.
-/
theorem file?_writeOutputs (workDir : Path.Place) (out : Text) (disk : Disk)
    (outputs : List OutputFile) :
    exists written rest, outputs = written ++ rest ∧
      ((writeOutputs workDir out disk outputs).2 = none ↔ rest = []) ∧
      forall place, (writeOutputs workDir out disk outputs).1.file? place =
        ((lastAt workDir out written place).map fun output => output.content.utf8).or
          (disk.file? place) := by
  induction outputs generalizing disk with
  | nil => exact ⟨[], [], rfl, by simp [writeOutputs], fun _ => rfl⟩
  | cons output outputs ih =>
      rw [writeOutputs]
      cases hwritten : disk.writeDeep workDir (Path.join out output.name) output.content.utf8 with
      | mk after fault =>
          have hdeep := Disk.file?_of_writeDeep hwritten
          cases fault with
          | some fault => exact ⟨[], output :: outputs, rfl, by simp, hdeep⟩
          | none =>
              rcases ih after with ⟨written, rest, rfl, hfault, hfiles⟩
              refine ⟨output :: written, rest, rfl, hfault, ?_⟩
              intro place
              have hfile : after.file? place =
                  if target workDir out output = place then some output.content.utf8
                  else disk.file? place := hdeep place
              rw [hfiles place, hfile, lastAt_cons]
              by_cases htarget : target workDir out output = place
              · rw [if_pos htarget, if_pos htarget]
                cases lastAt workDir out written place <;> rfl
              · rw [if_neg htarget, if_neg htarget, Option.or_none]

end Job
end ProtoModules
