import ProtoModules.Proofs.JobRuns
import ProtoModules.Proofs.RoundTrip

/-!
# Jobs and requests agree

A job that takes its files from a stored set generates what a request for the same files is
answered with.  It is rejected in the words of the answer, and otherwise it writes the modules
of the answer in turn, so that each place ends up with the last module that was written there.
Two paths that are spelled differently may well lead to one place.
-/

namespace ProtoModules

open Schema

namespace Job

def ofStored (path out : Text) (requested : List Text) (extension : Text) : Job where
  out := some out
  descriptorSet := path
  files := requested.map some
  extension := extension

def requestFor (files : List File) (requested : List Text) (extension : Text) : Request where
  requested := requested
  parameter := Options.extensionParameter extension
  files := files

section Stored

variable {around : Surroundings} {path : Text} {bytes : Bytes} {files : List File}
  {requested : List Text}

theorem fileSet_ofStored (hstored : around.disk.readFile around.workDir path = .ok bytes)
    (hread : Wire.readFileSet bytes = .ok ⟨files, []⟩) (out extension : Text) :
    (ofStored path out requested extension).fileSet around = .ok files := by
  have hpath : path ≠ [] := by
    intro hnil
    rw [hnil] at hstored
    cases hstored
  have hload : loadSet around.disk around.workDir path = .ok files := by
    simp only [loadSet, hstored, parseSet, hread, if_true]
  rw [fileSet, ofStored, if_pos hpath, hload]

theorem fileSet_of_written
    (hstored : around.disk.readFile around.workDir path = .ok (Wire.writeFileSet files))
    (hlevels : levelsAbove (files.map File.levels) ≤ 100)
    (hsize : (Wire.writeFileSet files).length < Wire.sizeLimit) (out extension : Text) :
    (ofStored path out requested extension).fileSet around = .ok files :=
  fileSet_ofStored hstored
    (Wire.readFileSet_of_form (Wire.fileSetForm_write hlevels) hsize) out extension

theorem outputs_ofStored (hstored : around.disk.readFile around.workDir path = .ok bytes)
    (hread : Wire.readFileSet bytes = .ok ⟨files, []⟩) (hsome : requested ≠ [])
    (hknown : forall name, name ∈ requested -> name ∈ files.map File.name)
    (out extension : Text) :
    (ofStored path out requested extension).outputs around =
      match Options.ofParameter (Options.extensionParameter extension) with
      | .error error => .error (.rejected (.options error))
      | .ok options =>
          (compile around.workDir files requested options.extension).mapError
            (JobFailure.rejected ∘ JobError.build) := by
  have hrequested : (ofStored path out requested extension).requested (files.map File.name) =
      requested.map some := by
    have hfiles : requested.map some ≠ [] := fun hnil => hsome (List.map_eq_nil_iff.mp hnil)
    exact if_pos hfiles
  have hunknown : (ofStored path out requested extension).unknownNames
      (files.map File.name) = [] := by
    rw [unknownNames_eq_nil_iff, hrequested]
    intro name hname
    rcases List.mem_map.mp hname with ⟨known, hmem, rfl⟩
    exact List.mem_map_of_mem (hknown known hmem)
  have hnames : (requested.map some).filterMap id = requested := by
    rw [List.filterMap_map]
    exact List.filterMap_some
  cases hoptions : Options.ofParameter (Options.extensionParameter extension) with
  | error error =>
      simp only [outputs, ofStored, hoptions]
      rfl
  | ok options =>
      have hfiles : (ofStored path out requested extension).fileSet around = .ok files :=
        fileSet_ofStored hstored hread out extension
      rw [outputs_eq hoptions hfiles, if_pos hunknown, hrequested, hnames]

/-- What a job does, next to what the request for the same modules is answered with. -/
theorem run_ofStored (hstored : around.disk.readFile around.workDir path = .ok bytes)
    (hread : Wire.readFileSet bytes = .ok ⟨files, []⟩) (hsome : requested ≠ [])
    (hknown : forall name, name ∈ requested -> name ∈ files.map File.name)
    (out extension : Text) :
    (exists error, error ≠ .build .emptyModuleName ∧
      ((ofStored path out requested extension).run around).result =
        .error (.rejected error) ∧
      ((requestFor files requested extension).answer around.workDir).error =
        some error.message) ∨
    (((requestFor files requested extension).answer around.workDir).error = none ∧
      (ofStored path out requested extension).run around =
        (ofStored path out requested extension).save around
          ((requestFor files requested extension).answer around.workDir).files) := by
  have houtputs := outputs_ofStored hstored hread hsome hknown out extension
  simp only [run, houtputs, Request.answer, requestFor]
  cases hparameter : Options.ofParameter (Options.extensionParameter extension) with
  | error error => exact Or.inl ⟨.options error, by simp, rfl, rfl⟩
  | ok options =>
      simp only
      cases hcompile : compile around.workDir files requested options.extension with
      | error failure =>
          have hextension := Options.isExtension_of_ofParameter hparameter
          rcases exists_collision_of_compile hextension hcompile with ⟨collision, rfl⟩
          exact Or.inl ⟨.build (.collision collision), by simp, rfl, rfl⟩
      | ok outputs => exact Or.inr ⟨rfl, rfl⟩

end Stored

theorem lastAt_eq_none_iff {workDir : Path.Place} {out : Text} {outputs : List OutputFile}
    {place : Path.Place} :
    lastAt workDir out outputs place = none ↔
      forall output, output ∈ outputs -> target workDir out output ≠ place := by
  rw [lastAt, List.getLast?_eq_none_iff, List.filter_eq_nil_iff]
  simp

theorem exists_lastAt_target (workDir : Path.Place) (out : Text) {outputs : List OutputFile}
    {output : OutputFile} (houtput : output ∈ outputs) :
    exists last, lastAt workDir out outputs (target workDir out output) = some last := by
  cases hlast : lastAt workDir out outputs (target workDir out output) with
  | none => exact absurd rfl (lastAt_eq_none_iff.mp hlast output houtput)
  | some last => exact ⟨last, rfl⟩

/-- How a job ends that has an output directory and modules to write there. -/
theorem save_ofStored (around : Surroundings) (path out : Text) (requested : List Text)
    (extension : Text) (outputs : List OutputFile) :
    (exists fault, ((ofStored path out requested extension).save around outputs).result =
        .error (.crashed (.ofFault fault)) ∧
      (fault.kind = .nullByte ->
        exists output, output ∈ outputs ∧ Path.nul ∈ Path.join out output.name)) ∨
    (((ofStored path out requested extension).save around outputs).result =
        .ok (outputs.map fun output => Path.join out output.name) ∧
      forall place,
        ((ofStored path out requested extension).save around outputs).disk.file? place =
          ((lastAt around.workDir out outputs place).map fun output =>
            output.content.utf8).or (around.disk.file? place)) := by
  simp only [save, ofStored]
  rcases writeOutputs_cases around.workDir out around.disk outputs with
    ⟨after, hafter⟩ | ⟨written, output, rest, before, after, fault, rfl, hbefore, hfault, hstops⟩
  · rw [hafter]
    exact Or.inr ⟨rfl, file?_of_writeOutputs hafter⟩
  · rw [hstops]
    refine Or.inl ⟨fault, rfl, ?_⟩
    intro hkind
    exact ⟨output, List.mem_append_right written List.mem_cons_self,
      Disk.nul_mem_of_writeDeep hfault hkind⟩

theorem rejected_iff_of_answered {run : JobRun} {response : Response}
    (hanswer : response.error = none)
    (hresult : forall error, run.result ≠ .error (.rejected error)) (message : Text) :
    (exists error, error ≠ .build .emptyModuleName ∧
      run.result = .error (.rejected error) ∧ error.message = message) ↔
    response.error = some message := by
  constructor
  · intro hrejected
    rcases hrejected with ⟨error, _, herror, _⟩
    exact absurd herror (hresult error)
  · intro hmessage
    rw [hanswer] at hmessage
    cases hmessage

/--
A job on a stored set is rejected with a message exactly when the request for the same
modules is answered with it, and otherwise only the disk can stop it, or a null character in
the path of a module.  A job that is not stopped returns the paths of the modules of the answer;
each path leads to a file with the last of the modules whose paths lead there, and no other file
is changed.
-/
theorem run_agrees_with_answer {around : Surroundings} {path : Text} {bytes : Bytes}
    {files : List File} {requested : List Text}
    (hstored : around.disk.readFile around.workDir path = .ok bytes)
    (hform : Wire.FileSetForm 100 files bytes) (hsize : bytes.length < Wire.sizeLimit)
    (hsome : requested ≠ [])
    (hknown : forall name, name ∈ requested -> name ∈ files.map File.name)
    {out extension : Text} {run : JobRun} {response : Response}
    (hrun : (ofStored path out requested extension).run around = run)
    (hresponse : (requestFor files requested extension).answer around.workDir = response) :
    (forall message,
      (exists error, error ≠ .build .emptyModuleName ∧
        run.result = .error (.rejected error) ∧ error.message = message) ↔
      response.error = some message) ∧
    (forall failure, run.result = .error failure ->
      (exists error, error ≠ .build .emptyModuleName ∧ failure = .rejected error) ∨
        exists fault, failure = .crashed (.ofFault fault) ∧
          (fault.kind = .nullByte ->
            exists output, output ∈ response.files ∧ Path.nul ∈ Path.join out output.name)) ∧
    (forall paths, run.result = .ok paths ->
      paths = response.files.map (fun output => Path.join out output.name) ∧
      (forall output, output ∈ response.files ->
        exists last,
          lastAt around.workDir out response.files (target around.workDir out output) =
            some last ∧
          run.disk.file? (target around.workDir out output) = some last.content.utf8) ∧
      (forall place,
        (forall output, output ∈ response.files -> target around.workDir out output ≠ place) ->
        run.disk.file? place = around.disk.file? place)) := by
  have hread := Wire.readFileSet_of_form hform hsize
  have hcases := run_ofStored hstored hread hsome hknown out extension
  rw [hrun, hresponse] at hcases
  rcases hcases with ⟨error, hkind, hresult, hanswer⟩ | ⟨hanswer, hsaved⟩
  · rw [hresult, hanswer]
    refine ⟨?_, ?_, ?_⟩
    · intro message
      constructor
      · intro hrejected
        rcases hrejected with ⟨other, _, hother, rfl⟩
        cases hother
        rfl
      · intro hmessage
        exact ⟨error, hkind, rfl, Option.some.inj hmessage⟩
    · intro failure hfailure
      exact Or.inl ⟨error, hkind, (Except.error.inj hfailure).symm⟩
    · intro paths hpaths
      cases hpaths
  · have hends := save_ofStored around path out requested extension response.files
    rw [← hsaved] at hends
    rcases hends with ⟨fault, hresult, hnul⟩ | ⟨hresult, hfiles⟩
    · refine ⟨rejected_iff_of_answered hanswer (by simp [hresult]), ?_, ?_⟩
      · intro failure hfailure
        rw [hresult] at hfailure
        exact Or.inr ⟨fault, (Except.error.inj hfailure).symm, hnul⟩
      · intro paths hpaths
        rw [hresult] at hpaths
        cases hpaths
    · refine ⟨rejected_iff_of_answered hanswer (by simp [hresult]), ?_, ?_⟩
      · intro failure hfailure
        rw [hresult] at hfailure
        cases hfailure
      · intro paths hpaths
        rw [hresult] at hpaths
        refine ⟨(Except.ok.inj hpaths).symm, ?_, ?_⟩
        · intro output houtput
          rcases exists_lastAt_target around.workDir out houtput with ⟨last, hlast⟩
          exact ⟨last, hlast, by rw [hfiles, hlast]; rfl⟩
        · intro place hplace
          rw [hfiles, lastAt_eq_none_iff.mpr hplace]
          rfl

/-- Two files whose modules have different paths to one place. -/
def spellings : List File := [{ name := "a.p".toList }, { name := "./a.p".toList }]

def spellingsAnswer : Response :=
  (requestFor spellings (spellings.map File.name) ['.', 'm']).answer []

def spellingsStored : Surroundings where
  disk := ({} : Disk).withFile [['s']] (Wire.writeFileSet spellings)

theorem readFile_spellingsStored :
    spellingsStored.disk.readFile spellingsStored.workDir ['s'] =
      .ok (Wire.writeFileSet spellings) := by
  rfl

theorem fileSetForm_spellings : Wire.FileSetForm 100 spellings (Wire.writeFileSet spellings) :=
  Wire.fileSetForm_write (by decide)

theorem length_spellings : (Wire.writeFileSet spellings).length < Wire.sizeLimit := by
  cbv

theorem result_on_spellings :
    ((ofStored ['s'] ['o'] (spellings.map File.name) ['.', 'm']).run spellingsStored).result =
      .ok ["o/a.m".toList, "o/./a.m".toList] := by
  decide +kernel

theorem run_on_spellings :
    exists (run : JobRun) (last : OutputFile),
      (ofStored ['s'] ['o'] (spellings.map File.name) ['.', 'm']).run spellingsStored = run ∧
      run.result = .ok ["o/a.m".toList, "o/./a.m".toList] ∧
      last.name = "./a.m".toList ∧
      run.disk.file? [['o'], "a.m".toList] = some last.content.utf8 ∧
      run.disk.file? [['s']] = some (Wire.writeFileSet spellings) := by
  have hsome : spellings.map File.name ≠ [] := by decide
  have hresponse : (requestFor spellings (spellings.map File.name) ['.', 'm']).answer
      spellingsStored.workDir = spellingsAnswer := rfl
  rcases run_agrees_with_answer readFile_spellingsStored fileSetForm_spellings length_spellings
    hsome (fun _ hname => hname) rfl hresponse with ⟨_, _, hok⟩
  rcases hok _ result_on_spellings with ⟨_, hwritten, hkept⟩
  have hfirst : exists output, output ∈ spellingsAnswer.files ∧
      target spellingsStored.workDir ['o'] output = [['o'], "a.m".toList] := by decide +kernel
  have hlastName : (lastAt spellingsStored.workDir ['o'] spellingsAnswer.files
      [['o'], "a.m".toList]).map OutputFile.name = some "./a.m".toList := by decide +kernel
  have hother : forall output, output ∈ spellingsAnswer.files ->
      target spellingsStored.workDir ['o'] output ≠ [['s']] := by decide +kernel
  rcases hfirst with ⟨output, houtput, hplace⟩
  rcases hwritten output houtput with ⟨last, hlast, hfile⟩
  rw [hplace] at hlast hfile
  rw [hlast] at hlastName
  refine ⟨_, last, rfl, result_on_spellings, Option.some.inj hlastName, hfile, ?_⟩
  rw [hkept _ hother]
  decide +kernel

/-- A module is not kept by the spelling of its path: a later one may have another spelling. -/
theorem not_forall_kept_by_spelling :
    ¬ (forall (around : Surroundings) (path out : Text) (bytes : Bytes) (files : List File)
        (requested : List Text) (extension : Text) (paths : List Text),
      around.disk.readFile around.workDir path = .ok bytes ->
      Wire.FileSetForm 100 files bytes -> bytes.length < Wire.sizeLimit ->
      requested ≠ [] -> (forall name, name ∈ requested -> name ∈ files.map File.name) ->
      Options.isExtension extension = true -> ',' ∉ extension ->
      Text.trim extension = extension ->
      ((ofStored path out requested extension).run around).result = .ok paths ->
      forall output last,
        output ∈ ((requestFor files requested extension).answer around.workDir).files ->
        (((requestFor files requested extension).answer around.workDir).files.filter
          (fun other => Path.join out other.name == Path.join out output.name)).getLast? =
            some last ->
        ((ofStored path out requested extension).run around).disk.file?
          (target around.workDir out output) = some last.content.utf8) := by
  intro hkept
  have hall := hkept spellingsStored ['s'] ['o'] _ spellings (spellings.map File.name) ['.', 'm'] _
    readFile_spellingsStored fileSetForm_spellings length_spellings (by decide)
    (fun _ hname => hname) (by decide) (by decide) (by decide) result_on_spellings
  have hfirst : exists output, output ∈ spellingsAnswer.files ∧
      (spellingsAnswer.files.filter
        (fun other => Path.join ['o'] other.name == Path.join ['o'] output.name)).getLast? =
          some output ∧
      ((ofStored ['s'] ['o'] (spellings.map File.name) ['.', 'm']).run spellingsStored).disk.file?
        (target spellingsStored.workDir ['o'] output) ≠ some output.content.utf8 := by
    decide +kernel
  rcases hfirst with ⟨output, houtput, hlast, hchanged⟩
  exact hchanged (hall output output houtput hlast)

end Job
end ProtoModules
