import Mathlib.Data.List.Induction
import ProtoModules.Path.Parent
import ProtoModules.Path.Relative
import ProtoModules.Proofs.SiteNames

/-!
# Where specifiers lead

A specifier is read from the directory of the importing module, one component after the
other.  It was made from two places, with the names that they begin with in common taken
off, so reading it goes up to where they part and then down to the imported module.  The
dots in front of a specifier mark it as relative and lead nowhere.
-/

namespace ProtoModules
namespace Path

/-!
## Components
-/

theorem components_append (front back : Text) :
    components (front ++ '/' :: back) = components front ++ components back := by
  simp only [components, List.splitOn_eq_splitOnP]
  exact List.splitOnP_append_cons front back rfl

theorem components_joined {parts : List Text}
    (hparts : forall part, part ∈ parts -> '/' ∉ part) (hsome : parts ≠ []) :
    components (Text.joined "/" parts) = parts :=
  List.splitOn_intercalate '/' hparts hsome

theorem slash_not_mem_of_mem_components {path part : Text}
    (hpart : part ∈ components path) : '/' ∉ part :=
  Text.not_mem_of_mem_splitOn hpart

/-!
## Places hold names
-/

def IsName (part : Text) : Prop :=
  part ≠ [] ∧ part ≠ here ∧ part ≠ above ∧ '/' ∉ part

theorem step_of_isName (place : Place) {part : Text} (hpart : IsName part) :
    step place part = place ++ [part] := by
  rcases hpart with ⟨hnil, hhere, habove, _⟩
  simp [step, hnil, hhere, habove]

theorem mem_of_mem_foldl_step {parts : List Text} {start : Place} {part : Text}
    (hpart : part ∈ parts.foldl step start) : part ∈ parts ∨ part ∈ start := by
  induction parts generalizing start with
  | nil => exact Or.inr hpart
  | cons first rest ih =>
      rcases ih hpart with hrest | hstep
      · exact Or.inl (List.mem_cons_of_mem first hrest)
      · unfold step at hstep
        split at hstep
        · exact Or.inr hstep
        · split at hstep
          · exact Or.inr (List.dropLast_subset start hstep)
          · rcases List.mem_append.mp hstep with hstart | hfirst
            · exact Or.inr hstart
            · exact Or.inl (List.mem_singleton.mp hfirst ▸ List.mem_cons_self)

theorem isName_of_mem_step {place : Place} {component : Text}
    (hplace : forall part, part ∈ place -> IsName part) (hslash : '/' ∉ component) :
    forall part, part ∈ step place component -> IsName part := by
  intro part hpart
  unfold step at hpart
  split at hpart
  · exact hplace part hpart
  · rename_i hstays
    split at hpart
    · exact hplace part (List.dropLast_subset place hpart)
    · rename_i hup
      rcases List.mem_append.mp hpart with hpart | hpart
      · exact hplace part hpart
      · rw [List.mem_singleton.mp hpart]
        rw [not_or] at hstays
        exact ⟨hstays.1, hstays.2, hup, hslash⟩

theorem isName_of_mem_foldl_step {parts : List Text}
    (hparts : forall part, part ∈ parts -> '/' ∉ part) {place : Place}
    (hplace : forall part, part ∈ place -> IsName part) :
    forall part, part ∈ parts.foldl step place -> IsName part := by
  induction parts generalizing place with
  | nil => exact hplace
  | cons first rest ih =>
      apply ih
      · intro part hpart
        exact hparts part (List.mem_cons_of_mem first hpart)
      · exact isName_of_mem_step hplace (hparts first List.mem_cons_self)

theorem isName_of_mem_place {workDir : Place}
    (hworkDir : forall part, part ∈ workDir -> IsName part) (path : Text) :
    forall part, part ∈ place workDir path -> IsName part := by
  apply isName_of_mem_foldl_step
  · intro part hpart
    exact slash_not_mem_of_mem_components hpart
  · split
    · intro part hpart
      cases hpart
    · exact hworkDir

theorem place_root (path : Text) : place [] path = (components path).foldl step [] := by
  rw [place, ite_self]

theorem place_root_append (front back : Text) :
    place [] (front ++ '/' :: back) = (components back).foldl step (place [] front) := by
  rw [place_root, place_root, components_append, List.foldl_append]

/-- A path joined to an absolute working directory is read from there. -/
theorem place_join {cwd : Text} (hcwd : isAbsolute cwd = true) (path : Text) :
    place [] (join cwd path) = place (place [] cwd) path := by
  by_cases hpath : isAbsolute path = true
  · simp only [join, place, hpath, if_true]
  · have hread : place (place [] cwd) path = (components path).foldl step (place [] cwd) := by
      rw [place, if_neg hpath]
    rw [hread, join, if_neg hpath]
    split
    · rename_i hend
      rcases hend with hnil | hslash
      · rw [hnil] at hcwd
        cases hcwd
      · rcases List.getLast?_eq_some_iff.mp hslash with ⟨front, rfl⟩
        have hslashed : place [] (front ++ ['/']) = place [] front := place_root_append front []
        rw [List.append_assoc, List.singleton_append, place_root_append, hslashed]
    · exact place_root_append cwd path

/-!
## The way from one place to another
-/

theorem foldl_step_names (start : Place) {names : List Text}
    (hnames : forall part, part ∈ names -> IsName part) :
    names.foldl step start = start ++ names := by
  induction names generalizing start with
  | nil => simp
  | cons first rest ih =>
      rw [List.foldl_cons, step_of_isName start (hnames first List.mem_cons_self),
        ih _ fun part hpart => hnames part (List.mem_cons_of_mem first hpart)]
      simp

theorem foldl_step_above (base up : Place) :
    (up.map fun _ => above).foldl step (base ++ up) = base := by
  induction up using List.reverseRecOn with
  | nil => simp
  | append_singleton front last ih =>
      have hup : (front ++ [last]).map (fun _ => above) = above :: front.map fun _ => above := by
        rw [List.map_const', List.map_const', List.length_append, List.length_singleton,
          List.replicate_succ]
      have hstep : step (base ++ (front ++ [last])) above = base ++ front := by
        rw [← List.append_assoc]
        exact List.dropLast_concat
      rw [hup, List.foldl_cons, hstep, ih]

theorem diverge_append (start target : Place) :
    exists common, start = common ++ (diverge start target).1 ∧
      target = common ++ (diverge start target).2 := by
  induction start generalizing target with
  | nil => exact ⟨[], by simp [diverge], by simp [diverge]⟩
  | cons first rest ih =>
      cases target with
      | nil => exact ⟨[], by simp [diverge], by simp [diverge]⟩
      | cons other others =>
          by_cases hsame : first = other
          · subst hsame
            rcases ih others with ⟨common, hrest, hothers⟩
            refine ⟨first :: common, ?_, ?_⟩
            · rw [diverge, if_pos rfl, List.cons_append, ← hrest]
            · rw [diverge, if_pos rfl, List.cons_append, ← hothers]
          · refine ⟨[], ?_, ?_⟩
            · rw [diverge, if_neg hsame, List.nil_append]
            · rw [diverge, if_neg hsame, List.nil_append]

theorem slash_not_mem_of_mem_route {start target : Place}
    (htarget : forall part, part ∈ target -> IsName part) :
    forall part, part ∈ route start target -> '/' ∉ part := by
  rcases diverge_append start target with ⟨common, _, hdown⟩
  intro part hpart
  rcases List.mem_append.mp hpart with hup | hpart
  · rcases List.mem_map.mp hup with ⟨_, _, rfl⟩
    decide
  · have hmem : part ∈ target := by
      rw [hdown]
      exact List.mem_append_right common hpart
    exact (htarget part hmem).2.2.2

theorem foldl_step_route (start : Place) {target : Place}
    (htarget : forall part, part ∈ target -> IsName part) :
    (route start target).foldl step start = target := by
  rcases diverge_append start target with ⟨common, hstart, hdown⟩
  have hnames : forall part, part ∈ (diverge start target).2 -> IsName part := by
    intro part hpart
    apply htarget
    rw [hdown]
    exact List.mem_append_right common hpart
  calc (route start target).foldl step start
      = (diverge start target).2.foldl step
          (((diverge start target).1.map fun _ => above).foldl step
            (common ++ (diverge start target).1)) := by
        rw [← hstart, ← List.foldl_append]
        rfl
    _ = (diverge start target).2.foldl step common := by rw [foldl_step_above]
    _ = common ++ (diverge start target).2 := foldl_step_names common hnames
    _ = target := hdown.symm

/-- The relative path leads from one place to the other. -/
theorem foldl_step_relative (start : Place) {target : Place}
    (htarget : forall part, part ∈ target -> IsName part) :
    (components (relative start target)).foldl step start = target := by
  have hroute := foldl_step_route start htarget
  unfold relative
  cases hparts : route start target with
  | nil =>
      rw [hparts] at hroute
      exact hroute
  | cons first rest =>
      have hslash : forall part, part ∈ route start target -> '/' ∉ part :=
        slash_not_mem_of_mem_route htarget
      rw [hparts] at hroute hslash
      simp only
      rw [components_joined hslash (List.cons_ne_nil first rest)]
      exact hroute

/-!
## The directory of a module
-/

theorem slash_not_mem_name (path : Text) : '/' ∉ (cutName path).2 := by
  unfold cutName
  cases hcut : Text.cutLast '/' path with
  | none => exact Text.cutLast_eq_none.mp hcut
  | some halves => exact (Text.cutLast_eq_some hcut).2

theorem cutName_folder_append (path : Text) {name : Text} (hname : '/' ∉ name) :
    cutName ((cutName path).1 ++ name) = ((cutName path).1, name) := by
  cases hcut : Text.cutLast '/' path with
  | none => simp [cutName, hcut, Text.cutLast_eq_none.mpr hname]
  | some halves => simp [cutName, hcut, Text.cutLast_append halves.1 hname]

/-- An extension is cut off the name, and the folder stays whole. -/
theorem exists_name_eq_append (path : Text) :
    exists kept, stem path = (cutName path).1 ++ kept ∧
      kept ++ (splitExtension path).2 = (cutName path).2 := by
  have hdots := List.takeWhile_append_dropWhile (p := (· = '.')) (l := (cutName path).2)
  simp only [stem, splitExtension]
  cases hcut : Text.cutLast '.' ((cutName path).2.dropWhile (· = '.')) with
  | none => exact ⟨(cutName path).2, (cutName_append path).symm, List.append_nil _⟩
  | some halves =>
      rw [(Text.cutLast_eq_some hcut).1, ← List.append_assoc] at hdots
      exact ⟨(cutName path).2.takeWhile (· = '.') ++ halves.1, List.append_assoc _ _ _, hdots⟩

theorem stem_append_extension (path : Text) : stem path ++ (splitExtension path).2 = path := by
  rcases exists_name_eq_append path with ⟨kept, hstem, hname⟩
  rw [hstem, List.append_assoc, hname, cutName_append]

theorem exists_stem_eq (path : Text) :
    exists name, stem path = (cutName path).1 ++ name ∧ '/' ∉ name := by
  rcases exists_name_eq_append path with ⟨kept, hstem, hname⟩
  refine ⟨kept, hstem, ?_⟩
  intro hmem
  apply slash_not_mem_name path
  rw [← hname]
  exact List.mem_append_left _ hmem

theorem cutName_withExtension (path : Text) {extension : Text} (hextension : '/' ∉ extension) :
    (cutName (withExtension path extension)).1 = (cutName path).1 := by
  rcases exists_stem_eq path with ⟨name, hstem, hname⟩
  have hboth : '/' ∉ name ++ extension := by
    rw [List.mem_append, not_or]
    exact ⟨hname, hextension⟩
  rw [withExtension, hstem, List.append_assoc, cutName_folder_append path hboth]

theorem directory_withExtension (path : Text) {extension : Text}
    (hextension : '/' ∉ extension) :
    directory (withExtension path extension) = directory path := by
  rw [directory, directory, cutName_withExtension path hextension]

/--
A specifier begins with a dot or two and a slash, and read from the directory of the
importing module it leads to the file of the imported module.
-/
theorem specifier_leads_to_target (cwd current target extension : Text)
    (hcwd : isAbsolute cwd = true) (hextension : '/' ∉ extension)
    (hfile : withExtension target extension ≠ []) :
    exists way, specifier? (place [] cwd) current target extension = some way ∧
      ("./".toList <+: way ∨ "../".toList <+: way) ∧
      (components way).foldl step
          (place [] (join cwd (directory (withExtension current extension)))) =
        place [] (join cwd (withExtension target extension)) := by
  have hroot : forall part, part ∈ place [] cwd -> IsName part :=
    isName_of_mem_place (fun part hpart => absurd hpart List.not_mem_nil) cwd
  have htarget := isName_of_mem_place hroot (withExtension target extension)
  have hway := foldl_step_relative (place (place [] cwd) (directory current)) htarget
  rw [place_join hcwd, place_join hcwd, directory_withExtension current hextension]
  refine ⟨_, if_neg hfile, ?_, ?_⟩
  · split
    · rename_i hup
      exact Or.inr (List.isPrefixOf_iff_prefix.mp hup)
    · exact Or.inl (List.prefix_append _ _)
  · split
    · exact hway
    · have hdot : components ("./".toList ++ relative (place (place [] cwd) (directory current))
          (place (place [] cwd) (withExtension target extension))) =
            here :: components (relative (place (place [] cwd) (directory current))
              (place (place [] cwd) (withExtension target extension))) :=
        components_append here _
      rw [hdot, List.foldl_cons]
      exact hway

/-- The imported file has the name of a directory that the importing module lies in. -/
theorem specifier_leads_up :
    exists way, specifier? [['w']] "a/b/c.p".toList "./a".toList [] = some way ∧
      ("./".toList <+: way ∨ "../".toList <+: way) ∧
      (components way).foldl step [['w'], ['a'], ['b']] = [['w'], ['a']] :=
  specifier_leads_to_target "/w".toList "a/b/c.p".toList "./a".toList [] (by decide)
    (by decide) (by decide)

end Path
end ProtoModules
