import Mathlib.Data.Set.Function
import ProtoModules.Proofs.JobRuns
import ProtoModules.Proofs.Standalone

/-!
# When modules overwrite each other

A module is named after its schema file, with another extension.  So the modules of two files
have one name exactly if the names of the files differ in their extensions alone.  A module
stays on the disk as it was written unless the path of a later one leads to the same place,
which different names rule out when their components all name something.
-/

namespace ProtoModules

open Schema

/-!
## Names that lead to places of their own
-/

namespace Path

theorem withExtension_eq_iff {path other extension : Text} :
    withExtension path extension = withExtension other extension ↔ stem path = stem other :=
  List.append_left_inj extension

theorem components_injective : Function.Injective components := by
  have hjoined : forall path, List.intercalate ['/'] (components path) = path :=
    fun _ => List.intercalate_splitOn '/'
  intro path other hsame
  rw [← hjoined path, ← hjoined other, hsame]

def IsPlain (path : Text) : Prop :=
  forall part, part ∈ components path -> IsName part

theorem not_isAbsolute_of_isPlain {path : Text} (hplain : IsPlain path) :
    isAbsolute path = false := by
  cases path with
  | nil => rfl
  | cons c rest =>
      have hne : c ≠ '/' := by
        intro hslash
        have hparts : components ('/' :: rest) = [] :: components rest := components_append [] rest
        rw [hslash, IsPlain, hparts] at hplain
        exact (hplain [] List.mem_cons_self).1 rfl
      simp [isAbsolute, hne]

theorem join_cases {path : Text} (hrelative : isAbsolute path = false) (base : Text) :
    (base = [] ∧ join base path = path) ∨
      exists front, join base path = front ++ '/' :: path ∧
        (base = front ++ ['/'] ∨ (base = front ∧ base ≠ [])) := by
  rw [join, hrelative]
  simp only [Bool.false_eq_true, if_false]
  by_cases hnone : base = []
  · exact Or.inl ⟨hnone, by rw [if_pos (Or.inl hnone), hnone, List.nil_append]⟩
  · right
    by_cases hslash : base.getLast? = some '/'
    · rcases List.getLast?_eq_some_iff.mp hslash with ⟨front, rfl⟩
      refine ⟨front, ?_, Or.inl rfl⟩
      rw [if_pos (Or.inr hslash), List.append_assoc]
      rfl
    · refine ⟨base, ?_, Or.inr ⟨rfl, hnone⟩⟩
      rw [if_neg (not_or.mpr ⟨hnone, hslash⟩)]

theorem isAbsolute_join {path : Text} (hrelative : isAbsolute path = false) (base : Text) :
    isAbsolute (join base path) = isAbsolute base := by
  rcases join_cases hrelative base with ⟨rfl, hjoin⟩ | ⟨front, hjoin, rfl | ⟨rfl, hsome⟩⟩
  · rw [hjoin, hrelative]
    rfl
  · rw [hjoin]
    cases front <;> rfl
  · rw [hjoin]
    cases base with
    | nil => exact absurd rfl hsome
    | cons c rest => rfl

theorem namedComponents_join {path : Text} (hrelative : isAbsolute path = false) (base : Text) :
    namedComponents (join base path) = namedComponents base ++ namedComponents path := by
  rcases join_cases hrelative base with ⟨rfl, hjoin⟩ | ⟨front, hjoin, rfl | ⟨rfl, _⟩⟩
  · rw [hjoin]
    rfl
  · have hnone : namedComponents [] = [] := rfl
    rw [hjoin, namedComponents_append, namedComponents_append, hnone, List.append_nil]
  · rw [hjoin, namedComponents_append]

/-- A path that is taken from a directory leads where it leads from the place of the directory. -/
theorem place_join_of_relative (workDir : Place) (base : Text) {path : Text}
    (hrelative : isAbsolute path = false) :
    place workDir (join base path) = (components path).foldl step (place workDir base) := by
  rw [place, place, isAbsolute_join hrelative, ← foldl_step_namedComponents,
    namedComponents_join hrelative, List.foldl_append, foldl_step_namedComponents,
    foldl_step_namedComponents]

/-- Below a directory, a path with a name in every component goes down these names. -/
theorem place_join_of_isPlain (workDir : Place) (base : Text) {path : Text}
    (hplain : IsPlain path) :
    place workDir (join base path) = place workDir base ++ components path := by
  rw [place_join_of_relative workDir base (not_isAbsolute_of_isPlain hplain),
    foldl_step_names (place workDir base) hplain]

end Path

/-!
## The modules of a set
-/

section Compiling

variable {workDir : Path.Place} {files : List File} {requested : List Text} {extension : Text}
  {modules : List OutputFile}

theorem map_name_of_compile (hcompile : compile workDir files requested extension = .ok modules) :
    modules.map OutputFile.name =
      ((files.map File.name).filter fun name => requested.contains name).map
        fun name => Path.withExtension name extension := by
  have hnames : List.Forall₂
      (fun (file : File) output => Path.withExtension file.name extension = output.name)
      (files.filter fun file => requested.contains file.name) modules := by
    apply (mapM_eq_ok_iff.mp hcompile).imp
    intro file output houtput
    rcases compileFile_eq_ok_iff.mp houtput with ⟨_, _, rfl⟩
    rfl
  rw [List.filter_map, List.map_map]
  symm
  rw [← List.forall₂_eq_eq_eq, List.forall₂_map_left_iff, List.forall₂_map_right_iff]
  exact hnames

theorem nodup_names_iff (hnames : (files.map File.name).Nodup)
    (hcompile : compile workDir files requested extension = .ok modules) :
    (modules.map OutputFile.name).Nodup ↔
      Set.InjOn Path.stem {name | name ∈ files.map File.name ∧ name ∈ requested} := by
  rw [map_name_of_compile hcompile, List.nodup_map_iff_inj_on (hnames.filter _)]
  simp only [List.mem_filter, List.contains_iff_mem, Path.withExtension_eq_iff]
  constructor
  · intro hinj name hname other hother
    exact hinj name hname other hother
  · intro hinj name hname other hother
    exact hinj hname hother

theorem exists_module_of_compile
    (hcompile : compile workDir files requested extension = .ok modules) {file : File}
    (hfile : file ∈ files) (hrequested : file.name ∈ requested) :
    exists esModule,
      EsModule.ofFile workDir (Registry.ofFiles files) extension file = .ok esModule ∧
      ⟨Path.withExtension file.name extension, esModule.text⟩ ∈ modules := by
  have hwanted : file ∈ files.filter fun file => requested.contains file.name :=
    List.mem_filter.mpr ⟨hfile, List.contains_iff_mem.mpr hrequested⟩
  rcases exists_mem_of_mapM hcompile hwanted with ⟨output, houtput, hcompiled⟩
  rcases compileFile_eq_ok_iff.mp hcompiled with ⟨esModule, hmodule, rfl⟩
  exact ⟨esModule, hmodule, houtput⟩

end Compiling

/-!
## Modules that stay
-/

namespace Job

/-- Whether each of the modules is what the disk has at the place of its path. -/
def Holds (workDir : Path.Place) (out : Text) (disk : Disk) (modules : List OutputFile) : Prop :=
  forall output, output ∈ modules ->
    disk.file? (target workDir out output) = some output.content.utf8

section Writing

variable {workDir : Path.Place} {out : Text} {modules : List OutputFile}

theorem nodup_targets_of_isPlain (workDir : Path.Place) (out : Text)
    (hplain : forall output, output ∈ modules -> Path.IsPlain output.name)
    (hnames : (modules.map OutputFile.name).Nodup) :
    (modules.map (target workDir out)).Nodup := by
  have hmap : modules.map (target workDir out) =
      (modules.map OutputFile.name).map fun name => Path.place workDir (Path.join out name) := by
    rw [List.map_map]
    rfl
  have hall : forall name, name ∈ modules.map OutputFile.name -> Path.IsPlain name := by
    intro name hname
    rcases List.mem_map.mp hname with ⟨output, houtput, rfl⟩
    exact hplain output houtput
  rw [hmap]
  apply hnames.map_on
  intro name hname other hother hplace
  -- Both places lie below that of the directory, so what is left are the components.
  rw [Path.place_join_of_isPlain workDir out (hall name hname),
    Path.place_join_of_isPlain workDir out (hall other hother)] at hplace
  exact Path.components_injective (List.append_cancel_left hplace)

/-- No later module leads to the place of this one, so it is the last one there. -/
theorem lastAt_target (hplaces : (modules.map (target workDir out)).Nodup) {output : OutputFile}
    (houtput : output ∈ modules) :
    lastAt workDir out modules (target workDir out output) = some output := by
  rcases exists_lastAt_target workDir out houtput with ⟨last, hlast⟩
  have hmem : last ∈ modules.filter fun other =>
      target workDir out other = target workDir out output := List.mem_of_getLast? hlast
  rw [List.mem_filter, decide_eq_true_eq] at hmem
  rw [hlast, List.inj_on_of_nodup_map hplaces hmem.1 houtput hmem.2]

theorem holds_of_writeOutputs (hplaces : (modules.map (target workDir out)).Nodup)
    {disk after : Disk} (hwritten : writeOutputs workDir out disk modules = (after, none)) :
    Holds workDir out after modules := by
  intro output houtput
  rw [file?_of_writeOutputs hwritten, lastAt_target hplaces houtput]
  rfl

end Writing

theorem holds_of_run {job : Job} {around : Surroundings} {out : Text}
    {modules : List OutputFile} (houtputs : job.outputs around = .ok modules)
    (hout : job.out = some out) (hplaces : (modules.map (target around.workDir out)).Nodup)
    {paths : List Text} (hdone : (job.run around).result = .ok paths) :
    Holds around.workDir out (job.run around).disk modules := by
  have hruns := job.runsTo_run around
  generalize job.run around = run at hruns hdone
  cases hruns with
  | failed _ _ => cases hdone
  | homeless _ _ => cases hdone
  | broken _ _ _ _ => cases hdone
  | idle hnone =>
      rw [houtputs] at hnone
      cases hnone
      intro output houtput
      cases houtput
  | finished hmodules _ hdirectory hwritten =>
      rw [houtputs] at hmodules
      cases hmodules
      rw [hout] at hdirectory
      cases hdirectory
      exact holds_of_writeOutputs hplaces hwritten

/--
In a set of files with different names, the modules have different names exactly if no two
requested files have names that differ in the extension alone.  Modules with different names
lead to different places if every component of their names names something.  When modules lead
to different places, each one that was written stays while the others are written, and in the
end the module of every requested file is at the place of its own path.
-/
theorem modules_stay_as_written {files : List File} (hnames : (files.map File.name).Nodup) :
    (forall workDir requested extension modules,
      compile workDir files requested extension = .ok modules ->
      ((modules.map OutputFile.name).Nodup ↔
        Set.InjOn Path.stem {name | name ∈ files.map File.name ∧ name ∈ requested})) ∧
    (forall (job : Job) (around : Surroundings) (out : Text) (modules : List OutputFile),
      job.fileSet around = .ok files -> job.out = some out ->
      job.outputs around = .ok modules ->
      ((modules.map OutputFile.name).Nodup ->
        (forall output, output ∈ modules -> Path.IsPlain output.name) ->
        (modules.map (target around.workDir out)).Nodup) ∧
      ((modules.map (target around.workDir out)).Nodup ->
        (forall written rest after, modules = written ++ rest ->
          writeOutputs around.workDir out around.disk written = (after, none) ->
          Holds around.workDir out after written) ∧
        (forall paths, (job.run around).result = .ok paths ->
          forall file, file ∈ files ->
          some file.name ∈ job.requested (files.map File.name) ->
          exists options esModule,
            Options.ofParameter (Options.extensionParameter job.extension) = .ok options ∧
            EsModule.ofFile around.workDir (Registry.ofFiles files) options.extension file =
              .ok esModule ∧
            (job.run around).disk.file?
                (Path.place around.workDir
                  (Path.join out (Path.withExtension file.name options.extension))) =
              some esModule.text.utf8))) := by
  refine ⟨fun _ _ _ _ => nodup_names_iff hnames, ?_⟩
  intro job around out modules hset hout houtputs
  refine ⟨?_, ?_⟩
  · intro hdifferent hplain
    exact nodup_targets_of_isPlain around.workDir out hplain hdifferent
  · intro hplaces
    refine ⟨?_, ?_⟩
    · intro written rest after hsplit hwritten
      rw [hsplit, List.map_append] at hplaces
      exact holds_of_writeOutputs hplaces.of_append_left hwritten
    · intro paths hdone file hfile hrequested
      have hheld := holds_of_run houtputs hout hplaces hdone
      rcases outputs_eq_ok_iff.mp houtputs with ⟨options, others, hoptions, hothers, _, hcompile⟩
      rw [hset] at hothers
      cases hothers
      have hname : file.name ∈ (job.requested (files.map File.name)).filterMap id :=
        List.mem_filterMap.mpr ⟨some file.name, hrequested, rfl⟩
      rcases exists_module_of_compile hcompile hfile hname with ⟨esModule, hmodule, houtput⟩
      have hfound := hheld _ houtput
      rw [target] at hfound
      exact ⟨options, esModule, hoptions, hmodule, hfound⟩

def subdirFiles : List File := [{ name := "a.p".toList }, { name := "d/a.q".toList }]

def subdirStored : Surroundings where
  disk := ({} : Disk).withFile [['s']] (Wire.writeFileSet subdirFiles)

def subdirJob : Job := ofStored ['s'] ['o'] (subdirFiles.map File.name) ['.', 'm']

theorem fileSet_subdirJob : subdirJob.fileSet subdirStored = .ok subdirFiles :=
  fileSet_of_written rfl (by decide) (by cbv) ['o'] ['.', 'm']

theorem modules_of_subdirFiles :
    exists modules esModule, subdirJob.outputs subdirStored = .ok modules ∧
      (modules.map (target [] ['o'])).Nodup ∧
      Set.InjOn Path.stem {name | name ∈ subdirFiles.map File.name} ∧
      EsModule.ofFile [] (Registry.ofFiles subdirFiles) ['.', 'm'] { name := "d/a.q".toList } =
        .ok esModule ∧
      (subdirJob.run subdirStored).disk.file? [['o'], ['d'], "a.m".toList] =
        some esModule.text.utf8 := by
  have hnames : (subdirFiles.map File.name).Nodup := by decide
  have houtputs : subdirJob.outputs subdirStored =
      .ok ((subdirJob.outputs subdirStored).toOption.getD []) := by decide +kernel
  have hcompile : compile [] subdirFiles (subdirFiles.map File.name) ['.', 'm'] =
      .ok ((subdirJob.outputs subdirStored).toOption.getD []) := by decide +kernel
  have hdifferent : (((subdirJob.outputs subdirStored).toOption.getD []).map
      OutputFile.name).Nodup := by decide +kernel
  have hplain : forall output, output ∈ (subdirJob.outputs subdirStored).toOption.getD [] ->
      Path.IsPlain output.name := by
    unfold Path.IsPlain Path.IsName
    decide +kernel
  have hdone : (subdirJob.run subdirStored).result = .ok ["o/a.m".toList, "o/d/a.m".toList] := by
    decide +kernel
  have hoptions : Options.ofParameter (Options.extensionParameter subdirJob.extension) =
      .ok { extension := ['.', 'm'] } := by decide +kernel
  rcases modules_stay_as_written hnames with ⟨hstems, hjobs⟩
  rcases hjobs subdirJob subdirStored ['o'] _ fileSet_subdirJob rfl houtputs with ⟨hapart, hstay⟩
  have hplaces := hapart hdifferent hplain
  have hinj := (hstems [] _ _ _ hcompile).mp hdifferent
  have hlisted : { name := "d/a.q".toList } ∈ subdirFiles := by simp [subdirFiles]
  rcases (hstay hplaces).2 _ hdone { name := "d/a.q".toList } hlisted (by decide) with
    ⟨options, esModule, hread, hmodule, hfile⟩
  rw [hoptions] at hread
  cases hread
  refine ⟨_, esModule, houtputs, hplaces, ?_, hmodule, hfile⟩
  intro name hname other hother
  exact hinj ⟨hname, hname⟩ ⟨hother, hother⟩

/--
Two files may have names that differ in the extension alone, and different names may lead to
one place.
-/
theorem not_forall_modules_differ :
    ¬ (forall (workDir : Path.Place) (files : List File) (requested : List Text)
        (parameter : Text) (options : Options) (modules : List OutputFile),
      (files.map File.name).Nodup -> Options.ofParameter parameter = .ok options ->
      compile workDir files requested options.extension = .ok modules ->
      (modules.map OutputFile.name).Nodup) ∧
    ¬ (forall (job : Job) (around : Surroundings) (out : Text) (files : List File)
        (modules : List OutputFile) (paths : List Text),
      job.fileSet around = .ok files -> (files.map File.name).Nodup -> job.out = some out ->
      job.outputs around = .ok modules -> (modules.map OutputFile.name).Nodup ->
      (job.run around).result = .ok paths ->
      Holds around.workDir out (job.run around).disk modules) := by
  constructor
  · intro hall
    have hshared := hall [] [{ name := "a.p".toList }, { name := "a.q".toList }]
      ["a.p".toList, "a.q".toList] [] {} _ (by decide) rfl rfl
    revert hshared
    decide +kernel
  · intro hall
    have hheld := hall (ofStored ['s'] ['o'] (spellings.map File.name) ['.', 'm'])
      spellingsStored ['o'] spellings
      (((ofStored ['s'] ['o'] (spellings.map File.name) ['.', 'm']).outputs
        spellingsStored).toOption.getD [])
      _ (fileSet_of_written rfl (by decide) length_spellings ['o'] ['.', 'm']) (by decide) rfl
      (by decide +kernel) (by decide +kernel) result_on_spellings
    revert hheld
    unfold Holds
    decide +kernel

end Job
end ProtoModules
