import ProtoModules.Proofs.ChosenExtension

/-!
# Staying below the output directory

A module is written where its name leads from the output directory.  The name comes from a file
of the set and from the extension, and both are taken as they are.  A relative name that never
goes above its start leads to a place below the output directory, wherever that is, and no other
name does so for every directory.
-/

namespace ProtoModules

open Schema

/-!
## Paths that stay below their start
-/

namespace Path

/-- Whether components never lead above their start, from so many steps below it. -/
def staysBelow : Nat -> List Text -> Bool
  | _, [] => true
  | depth, part :: rest =>
      if part = [] ∨ part = here then staysBelow depth rest
      else if part = above then
        match depth with
        | 0 => false
        | higher + 1 => staysBelow higher rest
      else staysBelow (depth + 1) rest

/-- Whether a path is relative and never leads above its start. -/
def IsInner (path : Text) : Prop :=
  isAbsolute path = false ∧ staysBelow 0 (components path) = true

instance (path : Text) : Decidable (IsInner path) :=
  inferInstanceAs (Decidable (_ ∧ _))

theorem step_of_stays (place : Place) {part : Text} (hstays : part = [] ∨ part = here) :
    step place part = place :=
  if_pos hstays

theorem step_above (place : Place) : step place above = place.dropLast := rfl

theorem step_of_goes (place : Place) {part : Text} (hstays : ¬ (part = [] ∨ part = here))
    (habove : part ≠ above) : step place part = place ++ [part] := by
  rw [step, if_neg hstays, if_neg habove]

theorem exists_foldl_step_of_staysBelow {depth : Nat} {parts : List Text}
    (hbelow : staysBelow depth parts = true) (base : Place) {down : Place}
    (hdepth : down.length = depth) :
    exists lower, parts.foldl step (base ++ down) = base ++ lower := by
  -- What lies below the base is as long as the depth, so a step up never reaches the base.
  fun_induction staysBelow depth parts generalizing down with
  | case1 depth => exact ⟨down, rfl⟩
  | case2 depth part rest hstays ih =>
      rw [List.foldl_cons, step_of_stays _ hstays]
      exact ih hbelow hdepth
  | case3 rest => cases hbelow
  | case4 rest higher _ ih =>
      have hsome : down ≠ [] := List.ne_nil_of_length_eq_add_one hdepth
      rw [List.foldl_cons, step_above, List.dropLast_append_of_ne_nil hsome]
      exact ih hbelow (by rw [List.length_dropLast, hdepth]; rfl)
  | case5 depth part rest hstays habove ih =>
      rw [List.foldl_cons, step_of_goes _ hstays habove, List.append_assoc]
      exact ih hbelow (by simp [hdepth])

/-- What leads above its start leaves the start, and no new component brings its name back. -/
theorem not_mem_foldl_step_of_climbs {depth : Nat} {parts : List Text} {start : Text}
    (hclimbs : staysBelow depth parts = false) (hparts : start ∉ parts) {down : Place}
    (hdepth : down.length = depth) (hdown : start ∉ down) :
    start ∉ parts.foldl step (start :: down) := by
  fun_induction staysBelow depth parts generalizing down with
  | case1 depth => cases hclimbs
  | case2 depth part rest hstays ih =>
      rw [List.foldl_cons, step_of_stays _ hstays]
      exact ih hclimbs (List.not_mem_of_not_mem_cons hparts) hdepth hdown
  | case3 rest =>
      -- This step leaves the start, and what follows is made of later components alone.
      have hnone : down = [] := List.length_eq_zero_iff.mp hdepth
      rw [List.foldl_cons, hnone, step_above]
      intro hmem
      rcases mem_of_mem_foldl_step hmem with hrest | hstart
      · exact hparts (List.mem_cons_of_mem above hrest)
      · cases hstart
  | case4 rest higher _ ih =>
      have hsome : down ≠ [] := List.ne_nil_of_length_eq_add_one hdepth
      rw [List.foldl_cons, step_above, List.dropLast_cons_of_ne_nil hsome]
      refine ih hclimbs (List.not_mem_of_not_mem_cons hparts) ?_ ?_
      · rw [List.length_dropLast, hdepth]
        rfl
      · exact fun hmem => hdown (List.dropLast_subset down hmem)
  | case5 depth part rest hstays habove ih =>
      rw [List.foldl_cons, step_of_goes _ hstays habove, List.cons_append]
      refine ih hclimbs (List.not_mem_of_not_mem_cons hparts) (by simp [hdepth]) ?_
      intro hmem
      rcases List.mem_append.mp hmem with hbelow | hpart
      · exact hdown hbelow
      · exact hparts (List.mem_cons.mpr (Or.inl (List.mem_singleton.mp hpart)))

theorem prefix_place_join {path : Text} (hinner : IsInner path) (workDir : Place) (base : Text) :
    place workDir base <+: place workDir (join base path) := by
  rw [place_join_of_relative workDir base hinner.1]
  rcases exists_foldl_step_of_staysBelow hinner.2 (place workDir base) List.length_nil with
    ⟨lower, hlower⟩
  rw [List.append_nil] at hlower
  rw [hlower]
  exact List.prefix_append _ lower

theorem exists_isName_not_mem (path : Text) :
    exists fresh, IsName fresh ∧ fresh ∉ components path := by
  refine ⟨'x' :: (components path).flatten, ⟨?_, ?_, ?_, ?_⟩, ?_⟩
  · exact List.cons_ne_nil _ _
  · intro hhere
    cases hhere
  · intro habove
    cases habove
  · intro hslash
    rcases List.mem_cons.mp hslash with hx | hflat
    · exact absurd hx (by decide)
    · rcases List.mem_flatten.mp hflat with ⟨part, hpart, hmem⟩
      exact slash_not_mem_of_mem_components hpart hmem
  · intro hmem
    have hlength := (List.sublist_flatten_of_mem hmem).length_le
    rw [List.length_cons] at hlength
    exact Nat.not_succ_le_self _ hlength

theorem place_of_isName {part : Text} (hpart : IsName part) : place [] part = [part] := by
  have hparts : components part = [part] := List.splitOn_eq_singleton hpart.2.2.2
  rw [place_root, hparts, List.foldl_cons, step_of_isName [] hpart]
  rfl

/-- The paths that stay below every directory are those that never lead above their start. -/
theorem isInner_iff {path : Text} :
    IsInner path ↔
      forall workDir base, place workDir base <+: place workDir (join base path) := by
  refine ⟨prefix_place_join, fun hall => ?_⟩
  rcases exists_isName_not_mem path with ⟨fresh, hname, hfresh⟩
  have hmem : fresh ∈ place [] (join fresh path) := by
    apply (hall [] fresh).subset
    rw [place_of_isName hname]
    exact List.mem_cons_self
  have hrelative : isAbsolute path = false := by
    by_contra habsolute
    rw [Bool.not_eq_false] at habsolute
    rw [join, if_pos habsolute, place_root] at hmem
    rcases mem_of_mem_foldl_step hmem with hpart | hstart
    · exact hfresh hpart
    · cases hstart
  refine ⟨hrelative, ?_⟩
  by_contra hclimbs
  rw [Bool.not_eq_true] at hclimbs
  rw [place_join_of_relative [] fresh hrelative, place_of_isName hname] at hmem
  exact not_mem_foldl_step_of_climbs hclimbs hfresh List.length_nil List.not_mem_nil hmem

end Path

/-!
## Writing below a directory
-/

namespace Disk

theorem node?_of_foldlM_follow {disk : Disk} {parts : List Text} {start place : Path.Place}
    (hsome : parts ≠ []) (hfollowed : parts.foldlM disk.follow start = .ok place) :
    disk.node? start = some .directory := by
  cases parts with
  | nil => exact absurd rfl hsome
  | cons part rest =>
      rw [List.foldlM_cons] at hfollowed
      rcases bind_eq_ok_iff.mp hfollowed with ⟨next, hstep, _⟩
      unfold follow at hstep
      split at hstep
      · cases hstep
      · cases hstep
      · assumption

theorem exists_foldlM_follow_of_writeDeep {disk after : Disk} {workDir : Path.Place} {path : Text}
    {content : Bytes} (hwritten : disk.writeDeep workDir path content = (after, none)) :
    exists made place,
      (Path.namedComponents path).foldlM (follow made)
        (if Path.isAbsolute path then [] else workDir) = .ok place ∧
      made.node? place ≠ some .directory := by
  unfold writeDeep at hwritten
  split at hwritten
  · cases hwritten
  · rename_i made _
    split at hwritten
    · rename_i written hfile
      rcases blame_bind_eq_ok_iff.mp hfile with ⟨place, hlocated, hput⟩
      refine ⟨made, place, ?_, ?_⟩
      · have hfollowed := foldlM_follow_of_locate hlocated
        rwa [Path.namedComponents_tidy, Path.isAbsolute_tidy] at hfollowed
      · intro hdirectory
        rw [hdirectory] at hput
        cases hput
    · cases hwritten

/-- A way through a directory ends at a file, so it does not end where the directory is. -/
theorem place_join_ne_of_writeDeep {disk after : Disk} {workDir : Path.Place} {base path : Text}
    {content : Bytes} (hrelative : Path.isAbsolute path = false)
    (hsome : Path.namedComponents path ≠ [])
    (hwritten : disk.writeDeep workDir (Path.join base path) content = (after, none)) :
    Path.place workDir (Path.join base path) ≠ Path.place workDir base := by
  rcases exists_foldlM_follow_of_writeDeep hwritten with ⟨made, place, hfollowed, hfile⟩
  have hplace : place = Path.place workDir (Path.join base path) := by
    rw [eq_foldl_step_of_foldlM hfollowed, Path.foldl_step_namedComponents]
    rfl
  rw [Path.namedComponents_join hrelative, Path.isAbsolute_join hrelative,
    List.foldlM_append] at hfollowed
  rcases bind_eq_ok_iff.mp hfollowed with ⟨middle, hbase, hrest⟩
  have hmiddle : middle = Path.place workDir base := by
    rw [eq_foldl_step_of_foldlM hbase, Path.foldl_step_namedComponents]
    rfl
  intro hsame
  rw [hplace, hsame, ← hmiddle] at hfile
  exact hfile (node?_of_foldlM_follow hsome hrest)

end Disk

/-!
## What a job writes
-/

namespace Job

theorem exists_written_of_writeOutputs {workDir : Path.Place} {out : Text} {disk last : Disk}
    {modules : List OutputFile} {fault : Option Fault}
    (hall : writeOutputs workDir out disk modules = (last, fault)) {place : Path.Place}
    (hchanged : last.file? place ≠ disk.file? place) :
    exists (output : OutputFile) (before after : Disk),
      output ∈ modules ∧ target workDir out output = place ∧
      before.writeDeep workDir (Path.join out output.name) output.content.utf8 =
        (after, none) := by
  induction modules generalizing disk with
  | nil =>
      cases hall
      exact absurd rfl hchanged
  | cons output rest ih =>
      cases hwrite : disk.writeDeep workDir (Path.join out output.name) output.content.utf8 with
      | mk next stopped =>
          have hfile := Disk.file?_of_writeDeep hwrite place
          rw [writeOutputs, hwrite] at hall
          cases stopped with
          | some _ =>
              cases hall
              exact absurd hfile hchanged
          | none =>
              by_cases htarget : target workDir out output = place
              · exact ⟨output, disk, next, List.mem_cons_self, htarget, hwrite⟩
              · have hkept : next.file? place = disk.file? place := hfile.trans (if_neg htarget)
                rw [← hkept] at hchanged
                rcases ih hall hchanged with ⟨other, before, after, hother, hwritten⟩
                exact ⟨other, before, after, List.mem_cons_of_mem output hother, hwritten⟩

/-- Each file that a run changes was written there as one of its modules. -/
theorem exists_written_of_run {job : Job} {around : Surroundings} {place : Path.Place}
    (hchanged : (job.run around).disk.file? place ≠ around.disk.file? place) :
    exists (out : Text) (modules : List OutputFile) (output : OutputFile) (before after : Disk),
      job.out = some out ∧ job.outputs around = .ok modules ∧ output ∈ modules ∧
      target around.workDir out output = place ∧
      before.writeDeep around.workDir (Path.join out output.name) output.content.utf8 =
        (after, none) := by
  have hruns := job.runsTo_run around
  generalize job.run around = run at hruns hchanged
  cases hruns with
  | failed _ _ => exact absurd rfl hchanged
  | homeless _ _ => exact absurd rfl hchanged
  | idle _ => exact absurd rfl hchanged
  | @finished out modules after houtputs _ hout hall =>
      rcases exists_written_of_writeOutputs hall hchanged with
        ⟨output, before, after, houtput, hwritten⟩
      exact ⟨out, modules, output, before, after, hout, houtputs, houtput, hwritten⟩
  | @broken out written rest faulty middle after fault houtputs hout hall hfault =>
      have hkept : after.file? place = middle.file? place := Disk.file?_of_writeDeep hfault place
      rcases exists_written_of_writeOutputs hall (hkept ▸ hchanged) with
        ⟨output, before, after, houtput, hwritten⟩
      exact ⟨out, _, output, before, after, hout, houtputs, List.mem_append_left _ houtput,
        hwritten⟩

theorem exists_file_of_outputs {job : Job} {around : Surroundings} {modules : List OutputFile}
    (houtputs : job.outputs around = .ok modules) {output : OutputFile}
    (houtput : output ∈ modules) :
    exists options files file,
      Options.ofParameter (Options.extensionParameter job.extension) = .ok options ∧
      job.fileSet around = .ok files ∧ file ∈ files ∧
      some file.name ∈ job.requested (files.map File.name) ∧
      output.name = Path.withExtension file.name options.extension := by
  rcases outputs_eq_ok_iff.mp houtputs with ⟨options, files, hoptions, hfiles, _, hcompile⟩
  have hname : output.name ∈ modules.map OutputFile.name := List.mem_map_of_mem houtput
  rw [map_name_of_compile hcompile] at hname
  rcases List.mem_map.mp hname with ⟨name, hname, houtput⟩
  rcases List.mem_filter.mp hname with ⟨hlisted, hrequested⟩
  rcases List.mem_map.mp hlisted with ⟨file, hfile, rfl⟩
  rcases List.mem_filterMap.mp (List.contains_iff_mem.mp hrequested) with ⟨name?, hname, hsome⟩
  refine ⟨options, files, file, hoptions, hfiles, hfile, ?_, houtput.symm⟩
  exact hsome ▸ hname

/--
Each file that a job writes is at the place where the name of a module leads from the output
directory.  If the name is relative and never leads above its start, then this place is that of
the output directory or below it, and below it if the name has a component that is neither empty
nor a single dot.  Any other name leads out of some directory.
-/
theorem written_below_out :
    (forall (job : Job) (around : Surroundings) (out : Text) (place : Path.Place),
      job.out = some out ->
      (job.run around).disk.file? place ≠ around.disk.file? place ->
      exists options files file,
        Options.ofParameter (Options.extensionParameter job.extension) = .ok options ∧
        job.fileSet around = .ok files ∧ file ∈ files ∧
        some file.name ∈ job.requested (files.map File.name) ∧
        place = Path.place around.workDir
          (Path.join out (Path.withExtension file.name options.extension)) ∧
        (Path.IsInner (Path.withExtension file.name options.extension) ->
          Path.place around.workDir out <+: place ∧
          (Path.namedComponents (Path.withExtension file.name options.extension) ≠ [] ->
            place ≠ Path.place around.workDir out))) ∧
    (forall name, Path.IsInner name ↔ forall workDir base,
      Path.place workDir base <+: Path.place workDir (Path.join base name)) := by
  refine ⟨?_, fun _ => Path.isInner_iff⟩
  intro job around out place hout hchanged
  rcases exists_written_of_run hchanged with
    ⟨directory, modules, output, before, after, hdirectory, houtputs, houtput, rfl, hwritten⟩
  cases hout.symm.trans hdirectory
  rcases exists_file_of_outputs houtputs houtput with
    ⟨options, files, file, hoptions, hfiles, hfile, hrequested, hname⟩
  refine ⟨options, files, file, hoptions, hfiles, hfile, hrequested, ?_⟩
  rw [← hname]
  refine ⟨rfl, fun hinner => ⟨Path.prefix_place_join hinner around.workDir out, ?_⟩⟩
  intro hsome
  exact Disk.place_join_ne_of_writeDeep hinner.1 hsome hwritten

def escapingFiles : List File := [{ name := "../a.p".toList }, { name := "b/../c.p".toList }]

def escapingStored : Surroundings where
  disk := ({} : Disk).withFile [['s']] (Wire.writeFileSet escapingFiles)

def escapingJob : Job := ofStored ['s'] ['o'] (escapingFiles.map File.name) ['.', 'm']

theorem changed_by_escapingJob :
    (escapingJob.run escapingStored).disk.file? ["a.m".toList] ≠
        escapingStored.disk.file? ["a.m".toList] ∧
      (escapingJob.run escapingStored).disk.file? [['o'], "c.m".toList] ≠
        escapingStored.disk.file? [['o'], "c.m".toList] := by
  decide +kernel

theorem fileSet_escapingJob : escapingJob.fileSet escapingStored = .ok escapingFiles :=
  fileSet_of_written rfl (by decide) (by cbv) ['o'] ['.', 'm']

theorem written_below_by_escapingJob :
    exists file, file ∈ escapingFiles ∧ Path.IsInner (Path.withExtension file.name ['.', 'm']) ∧
      Path.place [] (Path.join ['o'] (Path.withExtension file.name ['.', 'm'])) =
        [['o'], "c.m".toList] ∧
      Path.place [] ['o'] <+: [['o'], "c.m".toList] ∧
      [['o'], "c.m".toList] ≠ Path.place [] ['o'] := by
  have hread : Options.ofParameter (Options.extensionParameter escapingJob.extension) =
      .ok ⟨['.', 'm']⟩ := rfl
  rcases written_below_out.1 escapingJob escapingStored ['o'] _ rfl changed_by_escapingJob.2 with
    ⟨options, files, file, hoptions, hfiles, hfile, _, hplace, hbelow⟩
  rw [fileSet_escapingJob] at hfiles
  cases hfiles
  rw [hread] at hoptions
  cases hoptions
  have hinner : Path.IsInner (Path.withExtension file.name ['.', 'm']) ∧
      Path.namedComponents (Path.withExtension file.name ['.', 'm']) ≠ [] := by
    rcases List.mem_cons.mp hfile with rfl | hrest
    · exact absurd hplace (by decide)
    · cases List.mem_singleton.mp hrest
      decide
  exact ⟨file, hfile, hinner.1, hplace.symm, (hbelow hinner.1).1, (hbelow hinner.1).2 hinner.2⟩

/-- A disk with a set of one file that has no name, and with a file where the output is to go. -/
def occupiedOutput : Surroundings where
  disk := (({} : Disk).withFile [['s']] (Wire.writeFileSet [{}])).withFile [['f']] []

/-- The job whose module has the name of a directory and goes where a file is. -/
def overwritingJob : Job := ofStored ['s'] "x/../f".toList [[]] ['.', '/']

theorem changed_by_overwritingJob :
    (overwritingJob.run occupiedOutput).disk.file? [['f']] ≠ occupiedOutput.disk.file? [['f']] := by
  decide +kernel

/--
A name that leads above its start may lead out of the output directory, and a name of dots and
slashes may lead to the output directory itself.
-/
theorem not_forall_written_below :
    ¬ (forall (job : Job) (around : Surroundings) (out : Text) (place : Path.Place),
      job.out = some out -> out ≠ [] ->
      (job.run around).disk.file? place ≠ around.disk.file? place ->
      Path.place around.workDir out <+: place) ∧
    ¬ (forall (job : Job) (around : Surroundings) (out : Text) (place : Path.Place),
      job.out = some out -> out ≠ [] ->
      (job.run around).disk.file? place ≠ around.disk.file? place ->
      place ≠ Path.place around.workDir out) := by
  constructor
  · intro hall
    have hprefix := hall escapingJob escapingStored ['o'] _ rfl (by decide) changed_by_escapingJob.1
    exact absurd hprefix (by decide)
  · intro hall
    exact hall overwritingJob occupiedOutput _ _ rfl (by decide) changed_by_overwritingJob rfl

end Job
end ProtoModules
