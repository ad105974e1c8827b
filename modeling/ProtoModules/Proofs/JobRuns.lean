import ProtoModules.Proofs.NullCharacters

/-!
# How a job runs

A job generates all its modules and then writes them one after the other.  Up to the first
module that is written the disk stays as it is.  A fault in writing leaves the files that the
modules in front of the faulty one leave, since making directories changes no file.  All this is
said of jobs whose set of files holds texts where it should.
-/

namespace ProtoModules

open Schema

namespace Job

/-!
## Generating
-/

theorem none_mem_files_of_mem_requested {job : Job} {fileNames : List Text}
    (hnone : none ∈ job.requested fileNames) : none ∈ job.files := by
  have hgiven : forall names : List Text, none ∉ names.map some := by
    intro names hmem
    rcases List.mem_map.mp hmem with ⟨_, _, hname⟩
    cases hname
  unfold requested at hnone
  by_cases hfiles : job.files ≠ []
  · rw [if_pos hfiles] at hnone
    exact hnone
  · rw [if_neg hfiles] at hnone
    by_cases hset : job.descriptorSet ≠ []
    · rw [if_pos hset] at hnone
      exact absurd hnone (hgiven _)
    · rw [if_neg hset] at hnone
      exact absurd hnone (hgiven _)

/-- The texts that a job hands over to get its set of files: a path, or the compiler's command. -/
def handedOver (job : Job) (around : Surroundings) : List Text :=
  if job.descriptorSet ≠ [] then [job.descriptorSet]
  else Compiler.command around.workDir around.setPath job.sources job.includeDirs

def FindsSet (job : Job) (around : Surroundings) (content : Bytes) : Prop :=
  (job.descriptorSet ≠ [] ∧
    around.disk.readFile around.workDir job.descriptorSet = .ok content) ∨
  (job.descriptorSet = [] ∧ around.compiler = .produced content)

/--
How a job may fail to generate its modules.  It is rejected, a text that it hands over has a
null character, its set of files is garbled, or it lacks a file name.
-/
inductive FailsWith (job : Job) (around : Surroundings) : JobFailure -> Prop where
  | rejected {error : JobError} :
      error ≠ .build .emptyModuleName -> FailsWith job around (.rejected error)
  | refused {text : Text} :
      text ∈ job.handedOver around -> Path.nul ∈ text ->
      FailsWith job around (.crashed (.ofFault ⟨.nullByte, text⟩))
  | garbled {content : Bytes} {set : Wire.Decoded (List File)} :
      job.FindsSet around content -> Wire.readFileSet content = .ok set -> set.garbled ≠ [] ->
      FailsWith job around .garbled
  | nameless {position : Nat} :
      none ∈ job.files -> FailsWith job around (.crashed (.ofLack (.file position)))

section Sets

variable {job : Job} {around : Surroundings} {failure : JobFailure}

theorem failsWith_of_parseSet {path : Text} {content : Bytes}
    (hfound : job.FindsSet around content)
    (hfailed : parseSet path content = .error failure) : FailsWith job around failure := by
  unfold parseSet at hfailed
  cases hread : Wire.readFileSet content with
  | error error =>
      rw [hread] at hfailed
      cases hfailed
      exact FailsWith.rejected (by simp)
  | ok set =>
      simp only [hread] at hfailed
      split at hfailed
      · cases hfailed
      · rename_i hgarbled
        cases hfailed
        exact FailsWith.garbled hfound hread hgarbled

theorem failsWith_of_loadSet (hset : job.descriptorSet ≠ [])
    (hfailed : loadSet around.disk around.workDir job.descriptorSet = .error failure) :
    FailsWith job around failure := by
  unfold loadSet at hfailed
  cases hread : around.disk.readFile around.workDir job.descriptorSet with
  | ok content =>
      rw [hread] at hfailed
      exact failsWith_of_parseSet (Or.inl ⟨hset, hread⟩) hfailed
  | error fault =>
      simp only [hread] at hfailed
      split at hfailed
      · rename_i hkind
        have hpath := (Disk.blame_eq_error_iff.mp hread).2
        have hfault : fault = ⟨.nullByte, job.descriptorSet⟩ := by rw [← hkind, ← hpath]
        have hhanded : job.descriptorSet ∈ job.handedOver around := by
          rw [handedOver, if_pos hset]
          exact List.mem_cons_self
        rw [hfault] at hfailed
        cases hfailed
        exact FailsWith.refused hhanded (Disk.nul_mem_of_readFile hread hkind)
      · cases hfailed
        exact FailsWith.rejected (by simp)

theorem failsWith_of_compiledSet (hset : job.descriptorSet = [])
    (hfailed : compiledSet around.setPath
      (Compiler.command around.workDir around.setPath job.sources job.includeDirs)
      around.compiler = .error failure) :
    FailsWith job around failure := by
  unfold compiledSet at hfailed
  split at hfailed
  · rename_i argument hfound
    cases hfailed
    have hhanded : argument ∈ job.handedOver around := by
      rw [handedOver, if_neg (not_not_intro hset)]
      exact List.mem_of_find?_eq_some hfound
    have hnul : argument.contains Path.nul = true :=
      List.find?_some (p := fun text : Text => text.contains Path.nul) hfound
    exact FailsWith.refused hhanded (List.contains_iff_mem.mp hnul)
  · cases hreply : around.compiler with
    | missing =>
        rw [hreply] at hfailed
        cases hfailed
        exact FailsWith.rejected (by simp)
    | failed messages =>
        rw [hreply] at hfailed
        cases hfailed
        exact FailsWith.rejected (by simp)
    | produced content =>
        rw [hreply] at hfailed
        exact failsWith_of_parseSet (Or.inr ⟨hset, hreply⟩) hfailed

theorem failsWith_of_fileSet (hfailed : job.fileSet around = .error failure) :
    FailsWith job around failure := by
  unfold fileSet at hfailed
  by_cases hset : job.descriptorSet ≠ []
  · rw [if_pos hset] at hfailed
    exact failsWith_of_loadSet hset hfailed
  · rw [if_neg hset] at hfailed
    by_cases hsources : job.sources ≠ []
    · rw [if_pos hsources] at hfailed
      exact failsWith_of_compiledSet (Decidable.not_not.mp hset) hfailed
    · rw [if_neg hsources] at hfailed
      cases hfailed
      exact FailsWith.rejected (by simp)

end Sets

def unknownNames (job : Job) (fileNames : List Text) : List (Option Text) :=
  (job.requested fileNames).filter fun name => !(fileNames.map some).contains name

theorem unknownNames_eq_nil_iff {job : Job} {fileNames : List Text} :
    job.unknownNames fileNames = [] ↔
      forall name, name ∈ job.requested fileNames -> name ∈ fileNames.map some := by
  rw [unknownNames, List.filter_eq_nil_iff]
  simp only [Bool.not_eq_true', Bool.not_eq_false, List.contains_iff_mem]

theorem failsWith_unknownFailure (job : Job) (around : Surroundings) (fileNames : List Text) :
    FailsWith job around (unknownFailure (job.unknownNames fileNames)) := by
  unfold unknownFailure
  cases hfind : (job.unknownNames fileNames).findIdx? Option.isNone with
  | none => exact FailsWith.rejected (by simp)
  | some position =>
      rcases List.findIdx?_eq_some_iff_getElem.mp hfind with ⟨hlt, hlacks, _⟩
      have hmem := List.getElem_mem hlt
      rw [Option.isNone_iff_eq_none.mp hlacks] at hmem
      exact FailsWith.nameless
        (none_mem_files_of_mem_requested (List.mem_of_mem_filter hmem))

section Outputs

variable {job : Job} {around : Surroundings}

/-- What a job generates once its extension and its set of files are at hand. -/
theorem outputs_eq {options : Options} {files : List File}
    (hoptions : Options.ofParameter (Options.extensionParameter job.extension) = .ok options)
    (hfiles : job.fileSet around = .ok files) :
    job.outputs around =
      if job.unknownNames (files.map File.name) = [] then
        (compile around.workDir files ((job.requested (files.map File.name)).filterMap id)
          options.extension).mapError (JobFailure.rejected ∘ JobError.build)
      else .error (unknownFailure (job.unknownNames (files.map File.name))) := by
  simp only [outputs, hoptions, hfiles, Except.mapError, Bind.bind, Except.bind]
  cases hunknown : job.unknownNames (files.map File.name) with
  | nil =>
      rw [unknownNames] at hunknown
      rw [hunknown, if_pos rfl]
  | cons first rest =>
      rw [unknownNames] at hunknown
      rw [hunknown, if_neg (List.cons_ne_nil first rest)]

theorem outputs_eq_ok_iff {modules : List OutputFile} :
    job.outputs around = .ok modules ↔
      exists options files,
        Options.ofParameter (Options.extensionParameter job.extension) = .ok options ∧
        job.fileSet around = .ok files ∧
        (forall name, name ∈ job.requested (files.map File.name) ->
          name ∈ (files.map File.name).map some) ∧
        compile around.workDir files ((job.requested (files.map File.name)).filterMap id)
          options.extension = .ok modules := by
  cases hoptions : Options.ofParameter (Options.extensionParameter job.extension) with
  | error error =>
      simp [outputs, hoptions, Except.mapError, Bind.bind, Except.bind]
  | ok options =>
      cases hfiles : job.fileSet around with
      | error error =>
          simp [outputs, hoptions, hfiles, Except.mapError, Bind.bind, Except.bind]
      | ok files =>
          simp only [Except.ok.injEq, exists_and_left, exists_eq_left', ← unknownNames_eq_nil_iff]
          rw [outputs_eq hoptions hfiles]
          by_cases hunknown : job.unknownNames (files.map File.name) = []
          · rw [if_pos hunknown]
            cases compile around.workDir files
                ((job.requested (files.map File.name)).filterMap id) options.extension with
            | error failure => simp [Except.mapError]
            | ok modules => simp [Except.mapError, hunknown]
          · rw [if_neg hunknown]
            simp [hunknown]

theorem failsWith_of_outputs {failure : JobFailure}
    (hfailed : job.outputs around = .error failure) : FailsWith job around failure := by
  cases hoptions : Options.ofParameter (Options.extensionParameter job.extension) with
  | error error =>
      rw [outputs, hoptions] at hfailed
      cases hfailed
      exact FailsWith.rejected (by simp)
  | ok options =>
      cases hfiles : job.fileSet around with
      | error failure =>
          simp only [outputs, hoptions, hfiles, Except.mapError, Bind.bind, Except.bind] at hfailed
          cases hfailed
          exact failsWith_of_fileSet hfiles
      | ok files =>
          rw [outputs_eq hoptions hfiles] at hfailed
          by_cases hunknown : job.unknownNames (files.map File.name) = []
          · rw [if_pos hunknown] at hfailed
            cases hcompile : compile around.workDir files
                ((job.requested (files.map File.name)).filterMap id) options.extension with
            | ok modules =>
                rw [hcompile] at hfailed
                cases hfailed
            | error failure =>
                rw [hcompile] at hfailed
                cases hfailed
                have hextension := Options.isExtension_of_ofParameter hoptions
                rcases exists_collision_of_compile hextension hcompile with ⟨collision, rfl⟩
                exact FailsWith.rejected (by simp)
          · rw [if_neg hunknown] at hfailed
            cases hfailed
            exact failsWith_unknownFailure job around (files.map File.name)

end Outputs

/-!
## Writing
-/

theorem file?_of_writeOutputs {workDir : Path.Place} {out : Text} {disk after : Disk}
    {modules : List OutputFile} (hwritten : writeOutputs workDir out disk modules = (after, none))
    (place : Path.Place) :
    after.file? place =
      ((lastAt workDir out modules place).map fun output => output.content.utf8).or
        (disk.file? place) := by
  rcases file?_writeOutputs workDir out disk modules with ⟨written, rest, hsplit, hfault, hfiles⟩
  rw [hwritten] at hfault hfiles
  rw [hfault.mp rfl, List.append_nil] at hsplit
  rw [hsplit]
  exact hfiles place

/-- Modules are all written, or the writing stops at one of them with a fault. -/
theorem writeOutputs_cases (workDir : Path.Place) (out : Text) (disk : Disk)
    (modules : List OutputFile) :
    (exists after, writeOutputs workDir out disk modules = (after, none)) ∨
    (exists written output rest before after fault,
      modules = written ++ output :: rest ∧
      writeOutputs workDir out disk written = (before, none) ∧
      before.writeDeep workDir (Path.join out output.name) output.content.utf8 =
        (after, some fault) ∧
      writeOutputs workDir out disk modules = (after, some fault)) := by
  induction modules generalizing disk with
  | nil => exact Or.inl ⟨disk, rfl⟩
  | cons output modules ih =>
      cases hwrite : disk.writeDeep workDir (Path.join out output.name) output.content.utf8 with
      | mk next fault =>
          cases fault with
          | some fault =>
              have hstops : writeOutputs workDir out disk (output :: modules) =
                  (next, some fault) := by rw [writeOutputs, hwrite]
              exact Or.inr
                ⟨[], output, modules, disk, next, fault, rfl, rfl, hwrite, hstops⟩
          | none =>
              have hgoes : forall more, writeOutputs workDir out disk (output :: more) =
                  writeOutputs workDir out next more := by
                intro more
                rw [writeOutputs, hwrite]
              rcases ih next with hall | hstopped
              · rw [hgoes]
                exact Or.inl hall
              · rcases hstopped with
                  ⟨written, faulty, rest, before, after, fault, rfl, hbefore, hfault, hstops⟩
                refine Or.inr ⟨output :: written, faulty, rest, before, after, fault, rfl, ?_,
                  hfault, ?_⟩
                · rw [hgoes]
                  exact hbefore
                · rw [hgoes]
                  exact hstops

/-!
## Whole runs
-/

/--
How a job may run: it fails to generate its modules, it lacks an output directory, it has nothing
to write, it writes all its modules, or it breaks off at one of them.
-/
inductive RunsTo (job : Job) (around : Surroundings) : JobRun -> Prop where
  | failed {failure : JobFailure} :
      job.outputs around = .error failure -> FailsWith job around failure ->
      RunsTo job around ⟨around.disk, .error failure⟩
  | homeless {modules : List OutputFile} :
      job.outputs around = .ok modules -> job.out = none ->
      RunsTo job around ⟨around.disk, .error (.crashed (.ofLack .out))⟩
  | idle :
      job.outputs around = .ok [] -> RunsTo job around ⟨around.disk, .ok []⟩
  | finished {out : Text} {modules : List OutputFile} {after : Disk} :
      job.outputs around = .ok modules -> modules ≠ [] -> job.out = some out ->
      writeOutputs around.workDir out around.disk modules = (after, none) ->
      RunsTo job around ⟨after, .ok (modules.map fun output => Path.join out output.name)⟩
  | broken {out : Text} {written rest : List OutputFile} {output : OutputFile}
      {before after : Disk} {fault : Fault} :
      job.outputs around = .ok (written ++ output :: rest) -> job.out = some out ->
      writeOutputs around.workDir out around.disk written = (before, none) ->
      before.writeDeep around.workDir (Path.join out output.name) output.content.utf8 =
        (after, some fault) ->
      RunsTo job around ⟨after, .error (.crashed (.ofFault fault))⟩

theorem runsTo_save {job : Job} {around : Surroundings} {modules : List OutputFile}
    (houtputs : job.outputs around = .ok modules) :
    RunsTo job around (job.save around modules) := by
  unfold save
  cases hout : job.out with
  | none =>
      cases modules with
      | nil => exact RunsTo.idle houtputs
      | cons output rest => exact RunsTo.homeless houtputs hout
  | some out =>
      rcases writeOutputs_cases around.workDir out around.disk modules with
        ⟨after, hafter⟩ |
          ⟨written, output, rest, before, after, fault, rfl, hbefore, hfault, hstops⟩
      · simp only [hafter]
        cases modules with
        | nil =>
            cases hafter
            exact RunsTo.idle houtputs
        | cons output rest =>
            exact RunsTo.finished houtputs (List.cons_ne_nil output rest) hout hafter
      · simp only [hstops]
        exact RunsTo.broken houtputs hout hbefore hfault

theorem runsTo_run (job : Job) (around : Surroundings) : RunsTo job around (job.run around) := by
  unfold run
  cases houtputs : job.outputs around with
  | ok modules => exact runsTo_save houtputs
  | error failure => exact RunsTo.failed houtputs (failsWith_of_outputs houtputs)

end Job
end ProtoModules
