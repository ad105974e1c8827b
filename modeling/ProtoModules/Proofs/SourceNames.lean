import Mathlib.Data.List.Nodup
import ProtoModules.Proofs.Overwriting

/-!
# Which files belong to a source

A file of a set belongs to a source if its name ends the path of the source, from a slash on.
Two names that end one path end each other, so a source has two files exactly if the name of one
of them ends the name of the other.  A set in which this does not happen gives each source at
most one module.
-/

namespace ProtoModules

open Schema

namespace Compiler

def IsTail (name path : Text) : Prop :=
  '/' :: name <:+ path

/-- Whether no file of a source has a name that another name ends. -/
def IsUnambiguous (source : Text) (fileNames : List Text) : Prop :=
  forall name, name ∈ fileNames -> isSourceOf source name = true ->
    forall other, other ∈ fileNames -> ¬ IsTail other name

theorem isSourceOf_iff {source fileName : Text} :
    isSourceOf source fileName = true ↔
      Path.tidy source = fileName ∨ IsTail fileName (Path.tidy source) := by
  rw [isSourceOf, Bool.or_eq_true, decide_eq_true_iff, List.isSuffixOf_iff_suffix]
  rfl

theorem not_isTail_self (name : Text) : ¬ IsTail name name := by
  intro htail
  have hlength := htail.length_le
  rw [List.length_cons] at hlength
  exact Nat.not_succ_le_self _ hlength

theorem isSourceOf_of_isTail {source name other : Text} (hname : isSourceOf source name = true)
    (htail : IsTail other name) : isSourceOf source other = true := by
  rw [isSourceOf_iff] at hname ⊢
  rcases hname with hwhole | hends
  · rw [hwhole]
    exact Or.inr htail
  · exact Or.inr (htail.trans ((List.suffix_cons '/' name).trans hends))

/-- Two names of one source end its path, and so the shorter one ends the longer one. -/
theorem isTail_or_isTail {source first second : Text} (hne : first ≠ second)
    (hfirst : isSourceOf source first = true) (hsecond : isSourceOf source second = true) :
    IsTail first second ∨ IsTail second first := by
  have hends : forall {left right : Text}, left ≠ right -> '/' :: left <:+ '/' :: right ->
      IsTail left right := by
    intro left right hne hsuffix
    rcases List.suffix_cons_iff.mp hsuffix with hsame | htail
    · exact absurd (List.cons.inj hsame).2 hne
    · exact htail
  rw [isSourceOf_iff] at hfirst hsecond
  rcases hfirst with hfirst | hfirst
  · rcases hsecond with hsecond | hsecond
    · exact absurd (hfirst.symm.trans hsecond) hne
    · rw [hfirst] at hsecond
      exact Or.inr hsecond
  · rcases hsecond with hsecond | hsecond
    · rw [hsecond] at hfirst
      exact Or.inl hfirst
    · rcases List.suffix_or_suffix_of_suffix hfirst hsecond with hshort | hshort
      · exact Or.inl (hends hne hshort)
      · exact Or.inr (hends hne.symm hshort)

/-!
## How many files the sources have
-/

theorem mem_namesOf_singleton {source name : Text} {fileNames : List Text} :
    name ∈ namesOf [source] fileNames ↔ name ∈ fileNames ∧ isSourceOf source name = true := by
  simp [namesOf]

/-- A file that is not mistaken for another one is the only one of its source. -/
theorem mem_namesOf_iff_eq {source name : Text} {fileNames : List Text}
    (hclear : IsUnambiguous source fileNames) (hname : name ∈ fileNames)
    (hsource : isSourceOf source name = true) {other : Text} :
    other ∈ namesOf [source] fileNames ↔ other = name := by
  rw [mem_namesOf_singleton]
  constructor
  · intro hother
    rcases hother with ⟨hother, hboth⟩
    refine Classical.byContradiction fun hne => ?_
    rcases isTail_or_isTail hne hboth hsource with htail | htail
    · exact hclear name hname hsource other hother htail
    · exact hclear other hother hboth name hname htail
  · intro hsame
    rw [hsame]
    exact ⟨hname, hsource⟩

theorem length_namesOf_le_one_iff {source : Text} {fileNames : List Text}
    (hnames : fileNames.Nodup) :
    (namesOf [source] fileNames).length ≤ 1 ↔ IsUnambiguous source fileNames := by
  have hnodup : (namesOf [source] fileNames).Nodup := hnames.filter _
  constructor
  · intro hone name hname hsource other hother htail
    have hfound := mem_namesOf_singleton.mpr ⟨hname, hsource⟩
    have hboth := mem_namesOf_singleton.mpr ⟨hother, isSourceOf_of_isTail hsource htail⟩
    have hne : name ≠ other := by
      intro hsame
      rw [hsame] at htail
      exact not_isTail_self other htail
    have hpair : [name, other] ⊆ namesOf [source] fileNames := by simp [hfound, hboth]
    have htwo := (List.subperm_of_subset (by simp [hne]) hpair).length_le
    exact absurd (htwo.trans hone) (by simp)
  · intro hclear
    cases hfound : namesOf [source] fileNames with
    | nil => exact Nat.zero_le 1
    | cons first rest =>
        have hfirst : first ∈ namesOf [source] fileNames := by
          rw [hfound]
          exact List.mem_cons_self
        rcases mem_namesOf_singleton.mp hfirst with ⟨hmem, hsource⟩
        have hrest : rest = [] := by
          rw [List.eq_nil_iff_forall_not_mem]
          intro other hother
          have hlisted : other ∈ namesOf [source] fileNames := by
            rw [hfound]
            exact List.mem_cons_of_mem first hother
          rw [(mem_namesOf_iff_eq hclear hmem hsource).mp hlisted] at hother
          rw [hfound] at hnodup
          exact (List.nodup_cons.mp hnodup).1 hother
        rw [hrest]
        exact Nat.le_refl 1

theorem length_namesOf_cons_le (source : Text) (sources fileNames : List Text) :
    (namesOf (source :: sources) fileNames).length ≤
      (namesOf [source] fileNames).length + (namesOf sources fileNames).length := by
  induction fileNames with
  | nil => exact Nat.zero_le _
  | cons fileName rest ih =>
      simp only [namesOf, List.filter_cons, List.any_cons, List.any_nil, Bool.or_false] at ih ⊢
      cases isSourceOf source fileName with
      | true => grind
      | false => grind

theorem length_namesOf_le {sources fileNames : List Text} (hnames : fileNames.Nodup)
    (hclear : forall source, source ∈ sources -> IsUnambiguous source fileNames) :
    (namesOf sources fileNames).length ≤ sources.length := by
  induction sources with
  | nil => simp [namesOf]
  | cons source rest ih =>
      have hfirst := (length_namesOf_le_one_iff hnames).mpr (hclear source List.mem_cons_self)
      have hrest := ih fun other hother => hclear other (List.mem_cons_of_mem source hother)
      calc (namesOf (source :: rest) fileNames).length
          ≤ (namesOf [source] fileNames).length + (namesOf rest fileNames).length :=
            length_namesOf_cons_le source rest fileNames
        _ ≤ 1 + rest.length := Nat.add_le_add hfirst hrest
        _ = (source :: rest).length := Nat.add_comm 1 rest.length

end Compiler

namespace Job

/-!
## The modules of a job that names no files
-/

theorem requested_of_sources {job : Job} (hfiles : job.files = []) (hset : job.descriptorSet = [])
    (fileNames : List Text) :
    job.requested fileNames = (Compiler.namesOf job.sources fileNames).map some := by
  rw [requested, if_neg (not_not.mpr hfiles), if_neg (not_not.mpr hset)]

/-- Without file names, a job generates the modules of the files of its sources. -/
theorem length_of_outputs {job : Job} {around : Surroundings} {files : List File}
    {modules : List OutputFile} (hfiles : job.files = []) (hset : job.descriptorSet = [])
    (hfound : job.fileSet around = .ok files) (houtputs : job.outputs around = .ok modules) :
    modules.length = (Compiler.namesOf job.sources (files.map File.name)).length := by
  rcases outputs_eq_ok_iff.mp houtputs with ⟨options, others, _, hothers, _, hcompile⟩
  rw [hfound] at hothers
  cases hothers
  rw [requested_of_sources hfiles hset, List.filterMap_map] at hcompile
  have hlength := congrArg List.length (map_name_of_compile hcompile)
  rw [List.length_map, List.length_map] at hlength
  rw [hlength, Compiler.namesOf]
  apply congrArg
  apply List.filter_congr
  intro name hname
  rw [Bool.eq_iff_iff, List.contains_iff_mem]
  simp [hname]

/--
In a set of files with different names, a source has at most one file exactly if the name of none
of its files is ended by another name.  Then that file is the only one that the source asks for.
If this is so for all sources, there are no more files than sources, and a job that names no
files generates no more modules than it has sources.
-/
theorem sources_have_one_file_each {fileNames : List Text} (hnames : fileNames.Nodup) :
    (forall source,
      (Compiler.namesOf [source] fileNames).length ≤ 1 ↔
        Compiler.IsUnambiguous source fileNames) ∧
    (forall source name, Compiler.IsUnambiguous source fileNames -> name ∈ fileNames ->
      Compiler.isSourceOf source name = true ->
      forall other, other ∈ Compiler.namesOf [source] fileNames ↔ other = name) ∧
    (forall sources,
      (forall source, source ∈ sources -> Compiler.IsUnambiguous source fileNames) ->
      (Compiler.namesOf sources fileNames).length ≤ sources.length ∧
      forall (job : Job) (around : Surroundings) (files : List File) (modules : List OutputFile),
        job.sources = sources -> job.files = [] -> job.descriptorSet = [] ->
        job.fileSet around = .ok files -> files.map File.name = fileNames ->
        job.outputs around = .ok modules -> modules.length ≤ sources.length) := by
  refine ⟨fun _ => Compiler.length_namesOf_le_one_iff hnames, ?_, ?_⟩
  · intro source name hclear hname hsource other
    exact Compiler.mem_namesOf_iff_eq hclear hname hsource
  · intro sources hclear
    have hlength := Compiler.length_namesOf_le hnames hclear
    refine ⟨hlength, ?_⟩
    rintro job around files modules rfl hfiles hset hfound rfl houtputs
    rw [length_of_outputs hfiles hset hfound houtputs]
    exact hlength

/-- A file and one that it imports. -/
def importedFiles : List File := [{ name := "m.p".toList }, { name := "c/n.p".toList }]

def importedCompiled : Surroundings where
  compiler := .produced (Wire.writeFileSet importedFiles)

def importedJob : Job where
  out := some ['o']
  sources := ["d/c/n.p".toList]

theorem fileSet_importedJob : importedJob.fileSet importedCompiled = .ok importedFiles := by
  have hform : Wire.FileSetForm 100 importedFiles (Wire.writeFileSet importedFiles) :=
    Wire.fileSetForm_write (by decide)
  have hread := Wire.readFileSet_of_form hform (by cbv)
  have hparsed : parseSet [] (Wire.writeFileSet importedFiles) = .ok importedFiles := by
    simp only [parseSet, hread, if_true]
  have hcommand : (Compiler.command importedCompiled.workDir importedCompiled.setPath
      importedJob.sources importedJob.includeDirs).find? (·.contains Path.nul) = none := by
    decide
  rw [fileSet, if_neg (by decide), if_pos (by decide), compiledSet.eq_def, hcommand]
  exact hparsed

theorem sources_of_importedJob :
    (Compiler.namesOf importedJob.sources (importedFiles.map File.name)).length ≤ 1 ∧
    exists modules, importedJob.outputs importedCompiled = .ok modules ∧ modules.length ≤ 1 := by
  have hclear : forall source, source ∈ importedJob.sources ->
      Compiler.IsUnambiguous source (importedFiles.map File.name) := by
    unfold Compiler.IsUnambiguous Compiler.IsTail
    decide
  have hoptions : Options.ofParameter (Options.extensionParameter importedJob.extension) =
      .ok {} := rfl
  have houtputs := outputs_eq hoptions fileSet_importedJob
  rcases (sources_have_one_file_each (by decide)).2.2 importedJob.sources hclear with
    ⟨hnames, hjobs⟩
  refine ⟨hnames, _, houtputs, ?_⟩
  exact hjobs importedJob importedCompiled importedFiles _ rfl rfl rfl fileSet_importedJob rfl
    houtputs

/-- A name that ends the path of a source may be that of another file. -/
theorem not_forall_source_has_one_file :
    ¬ forall (source : Text) (fileNames : List Text), fileNames.Nodup ->
      (Compiler.namesOf [source] fileNames).length ≤ 1 := by
  intro hall
  have hone := hall "c/n.p".toList ["n.p".toList, "c/n.p".toList] (by decide)
  exact absurd hone (by decide)

end Job
end ProtoModules
