import ProtoModules.Proofs.Atomicity
import ProtoModules.Proofs.Overwriting
import ProtoModules.Proofs.Parameters

/-!
# The extension that a job chooses

A job writes the extension it was given into a parameter and reads the parameter back.  Nothing
marks where the extension ends, so a comma in it begins a new item.  Without a comma the parameter
has one item, and what is read is the extension without the blanks around it, or nothing.  With a
comma the extension is never the one that was given, since what is read has no comma.
-/

namespace ProtoModules

open Schema

namespace Options

/-!
## The extension as a parameter
-/

theorem trim_extensionParameter (extension : Text) :
    Text.trim (extensionParameter extension) =
      extensionKey ++ '=' :: Text.dropEndWhile Text.isBlank extension := by
  have hsplit : extensionParameter extension =
      [] ++ ((extensionKey ++ '=' :: Text.dropEndWhile Text.isBlank extension) ++
        (extension.reverse.takeWhile Text.isBlank).reverse) := by
    rw [List.nil_append, List.append_assoc, List.cons_append, Text.dropEndWhile_append]
    rfl
  rw [hsplit]
  apply Text.trim_of_blank_ends
  · exact fun _ hnone => absurd hnone List.not_mem_nil
  · intro c hc
    exact List.all_eq_true.mp List.all_takeWhile c (List.mem_reverse.mp hc)
  · intro c hhead
    cases hhead
    decide
  · intro c hlast
    rw [List.getLast?_append, List.getLast?_cons, Option.some_or] at hlast
    cases hend : (Text.dropEndWhile Text.isBlank extension).getLast? with
    | none =>
        rw [hend] at hlast
        cases hlast
        decide
    | some last =>
        rw [hend] at hlast
        cases hlast
        exact Text.isBlank_of_getLast?_dropEndWhile hend

theorem reads_extensionParameter (extension : Text) :
    Reads (extensionParameter extension) "extension".toList (some (Text.trim extension)) := by
  have hreads := Reads.pair (trim_extensionParameter extension) (by decide)
  rwa [Text.trim_dropEndWhile] at hreads

theorem readItem_extensionParameter (parameter : Text) (options : Options) (value : Text) :
    readItem parameter options (extensionParameter value) =
      if isExtension (Text.trim value) then .ok ⟨Text.trim value⟩
      else .error (.invalidExtension (Text.trim value)) := by
  have hsome : Text.trim (extensionParameter value) ≠ [] := by
    rw [trim_extensionParameter]
    exact List.append_ne_nil_of_right_ne_nil _ (List.cons_ne_nil _ _)
  rw [readItem_of_trim_ne_nil hsome, readEntry_of_reads (reads_extensionParameter value)]
  exact if_pos rfl

/-- Only what an extension has in front of its first comma is part of the item that sets it. -/
theorem ofParameter_extensionParameter {extension first : Text} {rest : List Text}
    (hpieces : extension.splitOn ',' = first :: rest) :
    ofParameter (extensionParameter extension) =
      if isExtension (Text.trim first) then
        rest.foldlM (readItem (extensionParameter extension)) ⟨Text.trim first⟩
      else .error (.invalidExtension (Text.trim first)) := by
  have hitems : (extensionParameter extension).splitOn ',' = extensionParameter first :: rest := by
    have hkey : ',' ∉ extensionKey ++ ['='] := by decide
    rcases Text.splitOn_append hkey extension with ⟨piece, more, hsame, hparameter⟩
    rw [hpieces] at hsame
    cases hsame
    rw [List.append_assoc, List.append_assoc] at hparameter
    exact hparameter
  rw [ofParameter, hitems, List.foldlM_cons, readItem_extensionParameter]
  by_cases hextension : isExtension (Text.trim first) = true
  · rw [if_pos hextension, if_pos hextension]
    rfl
  · rw [if_neg hextension, if_neg hextension]
    rfl

theorem leaves_of_extensionParameter {extension first : Text} {rest : List Text}
    (hpieces : extension.splitOn ',' = first :: rest) {options : Options}
    (hread : ofParameter (extensionParameter extension) = .ok options) :
    Leaves (Text.trim first) rest options.extension := by
  rw [ofParameter_extensionParameter hpieces] at hread
  by_cases hextension : isExtension (Text.trim first) = true
  · rw [if_pos hextension] at hread
    exact (leaves_of_foldlM hread).2
  · rw [if_neg hextension] at hread
    cases hread

theorem ofParameter_of_comma_not_mem {extension : Text} (hcomma : ',' ∉ extension) :
    ofParameter (extensionParameter extension) =
      if isExtension (Text.trim extension) then .ok ⟨Text.trim extension⟩
      else .error (.invalidExtension (Text.trim extension)) := by
  rw [ofParameter_extensionParameter (List.splitOn_eq_singleton hcomma)]
  rfl

theorem comma_not_mem_of_sets {item value : Text} (hitem : ',' ∉ item) (hsets : Sets item value) :
    ',' ∉ value := by
  intro hcomma
  rcases hsets with ⟨hreads, _⟩
  generalize hkey : "extension".toList = key at hreads
  cases hreads with
  | @pair key raw hsplit _ =>
      have hraw : ',' ∈ Text.trim item := by
        rw [hsplit]
        exact List.mem_append_right key (List.mem_cons_of_mem '=' (Text.mem_of_mem_trim hcomma))
      exact hitem (Text.mem_of_mem_trim hraw)

theorem comma_not_mem_of_ofParameter {parameter : Text} {options : Options}
    (hread : ofParameter parameter = .ok options) : ',' ∉ options.extension := by
  rcases (leaves_of_foldlM hread).2 with ⟨hsame, _⟩ | ⟨front, item, back, hitems, hsets, _⟩
  · rw [hsame]
    decide
  · have hitem : item ∈ parameter.splitOn ',' := by simp [hitems]
    exact comma_not_mem_of_sets (Text.not_mem_of_mem_splitOn hitem) hsets

theorem extension_eq_trim_iff {extension : Text} {options : Options}
    (hread : ofParameter (extensionParameter extension) = .ok options) :
    options.extension = Text.trim extension ↔ ',' ∉ extension := by
  constructor
  · intro hsame hcomma
    have hkept : ',' ∈ Text.trim extension := Text.mem_trim (by decide) hcomma
    rw [← hsame] at hkept
    exact comma_not_mem_of_ofParameter hread hkept
  · intro hcomma
    rw [ofParameter_of_comma_not_mem hcomma] at hread
    by_cases hextension : isExtension (Text.trim extension) = true
    · rw [if_pos hextension] at hread
      cases hread
      rfl
    · rw [if_neg hextension] at hread
      cases hread

end Options

/-!
## What a job writes
-/

namespace Job

theorem exists_target_of_writtenOver {workDir : Path.Place} {out : Text} {before after : Disk}
    {modules : List OutputFile} (hwritten : WrittenOver workDir out before modules after)
    {place : Path.Place} (hchanged : after.file? place ≠ before.file? place) :
    exists output, output ∈ modules ∧ target workDir out output = place := by
  cases hlast : lastAt workDir out modules place with
  | none =>
      have hsame := hwritten place
      rw [hlast] at hsame
      exact absurd hsame hchanged
  | some output =>
      have hmem := List.mem_of_getLast? hlast
      rw [List.mem_filter, decide_eq_true_eq] at hmem
      exact ⟨output, hmem⟩

/-- A run changes no file but those that the paths of its modules lead to. -/
theorem exists_target_of_changed {job : Job} {around : Surroundings} {place : Path.Place}
    (hchanged : (job.run around).disk.file? place ≠ around.disk.file? place) :
    exists out modules output, job.out = some out ∧ job.outputs around = .ok modules ∧
      output ∈ modules ∧ target around.workDir out output = place := by
  have hruns := job.runsTo_run around
  generalize job.run around = run at hruns hchanged
  cases hruns with
  | failed _ _ => exact absurd rfl hchanged
  | homeless _ _ => exact absurd rfl hchanged
  | idle _ => exact absurd rfl hchanged
  | @finished out modules _ houtputs _ hout hwritten =>
      rcases exists_target_of_writtenOver (file?_of_writeOutputs hwritten) hchanged with
        ⟨output, houtput, hplace⟩
      exact ⟨out, modules, output, hout, houtputs, houtput, hplace⟩
  | @broken out written rest faulty _ _ _ houtputs hout hbefore hfault =>
      rcases exists_target_of_writtenOver (writtenOver_of_fault hbefore hfault) hchanged with
        ⟨output, houtput, hplace⟩
      exact ⟨out, written ++ faulty :: rest, output, hout, houtputs,
        List.mem_append_left _ houtput, hplace⟩

/-- The modules of a job are named with the extension that it chose, if there is no comma in it. -/
theorem map_name_of_outputs {job : Job} {around : Surroundings} {modules : List OutputFile}
    (hcomma : ',' ∉ job.extension) (houtputs : job.outputs around = .ok modules) :
    exists files, job.fileSet around = .ok files ∧
      modules.map OutputFile.name =
        ((files.map File.name).filter fun name =>
          some name ∈ job.requested (files.map File.name)).map fun name =>
            Path.withExtension name (Text.trim job.extension) := by
  rcases outputs_eq_ok_iff.mp houtputs with ⟨options, files, hoptions, hfiles, _, hcompile⟩
  have hrequested : forall name, (((job.requested (files.map File.name)).filterMap id).contains
      name) = decide (some name ∈ job.requested (files.map File.name)) := by
    intro name
    rw [Bool.eq_iff_iff, List.contains_iff_mem, List.mem_filterMap, decide_eq_true_eq]
    simp
  refine ⟨files, hfiles, ?_⟩
  rw [map_name_of_compile hcompile, (Options.extension_eq_trim_iff hoptions).mpr hcomma]
  simp only [hrequested]

/--
An extension is read back from its parameter, without the blanks around it, exactly if it has
no comma.  Otherwise the last of its pieces that is not blank says which extension is taken,
and that is never the one that was given.  A job whose extension has no comma names all its
modules with it and changes no other file.
-/
theorem extension_survives_without_comma (extension : Text) :
    (',' ∉ extension ->
      Options.ofParameter (Options.extensionParameter extension) =
        if Options.isExtension (Text.trim extension) then .ok ⟨Text.trim extension⟩
        else .error (.invalidExtension (Text.trim extension))) ∧
    (forall options,
      Options.ofParameter (Options.extensionParameter extension) = .ok options ->
      (options.extension = Text.trim extension ↔ ',' ∉ extension) ∧
      forall first rest, extension.splitOn ',' = first :: rest ->
        Options.Leaves (Text.trim first) rest options.extension) ∧
    (forall (job : Job) (around : Surroundings), job.extension = extension -> ',' ∉ extension ->
      (forall modules, job.outputs around = .ok modules ->
        exists files, job.fileSet around = .ok files ∧
          modules.map OutputFile.name =
            ((files.map File.name).filter fun name =>
              some name ∈ job.requested (files.map File.name)).map fun name =>
                Path.withExtension name (Text.trim extension)) ∧
      (forall place, (job.run around).disk.file? place ≠ around.disk.file? place ->
        exists out files file, job.out = some out ∧ job.fileSet around = .ok files ∧
          file ∈ files ∧
          place = Path.place around.workDir
            (Path.join out (Path.withExtension file.name (Text.trim extension))))) := by
  refine ⟨Options.ofParameter_of_comma_not_mem, ?_, ?_⟩
  · intro options hread
    exact ⟨Options.extension_eq_trim_iff hread,
      fun _ _ hpieces => Options.leaves_of_extensionParameter hpieces hread⟩
  · rintro job around rfl hcomma
    refine ⟨fun _ houtputs => map_name_of_outputs hcomma houtputs, ?_⟩
    intro place hchanged
    rcases exists_target_of_changed hchanged with
      ⟨out, modules, output, hout, houtputs, houtput, hplace⟩
    rcases map_name_of_outputs hcomma houtputs with ⟨files, hfiles, hnames⟩
    have hname : output.name ∈ modules.map OutputFile.name := List.mem_map_of_mem houtput
    rw [hnames] at hname
    rcases List.mem_map.mp hname with ⟨name, hname, houtput⟩
    rcases List.mem_map.mp (List.mem_of_mem_filter hname) with ⟨file, hfile, rfl⟩
    refine ⟨out, files, file, hout, hfiles, hfile, ?_⟩
    rw [← hplace, target, ← houtput]

def padded : Job := { subdirJob with extension := " .m ".toList }

theorem extension_of_padded :
    Options.ofParameter (Options.extensionParameter " .m ".toList) = .ok ⟨['.', 'm']⟩ ∧
    (exists modules, padded.outputs subdirStored = .ok modules ∧
      modules.map OutputFile.name = ["a.m".toList, "d/a.m".toList]) ∧
    (exists file, file ∈ subdirFiles ∧
      Path.place [] (Path.join ['o'] (Path.withExtension file.name ['.', 'm'])) =
        [['o'], "a.m".toList]) := by
  have houtputs : padded.outputs subdirStored =
      .ok ((padded.outputs subdirStored).toOption.getD []) := by decide +kernel
  have hchanged : (padded.run subdirStored).disk.file? [['o'], "a.m".toList] ≠
      subdirStored.disk.file? [['o'], "a.m".toList] := by decide +kernel
  have hset : padded.fileSet subdirStored = .ok subdirFiles := fileSet_subdirJob
  rcases extension_survives_without_comma " .m ".toList with ⟨hread, _, hjobs⟩
  rcases hjobs padded subdirStored rfl (by decide) with ⟨hnames, hplaces⟩
  refine ⟨hread (by decide), ?_, ?_⟩
  · rcases hnames _ houtputs with ⟨files, hfiles, hnames⟩
    rw [hset] at hfiles
    cases hfiles
    exact ⟨_, houtputs, hnames⟩
  · rcases hplaces _ hchanged with ⟨out, files, file, hout, hfiles, hfile, hplace⟩
    rw [hset] at hfiles
    cases hfiles
    cases hout
    exact ⟨file, hfile, hplace.symm⟩

/-- An extension with a comma in it may be read as another one. -/
theorem not_forall_extension_survives :
    ¬ forall (extension : Text) (options : Options),
      Options.ofParameter (Options.extensionParameter extension) = .ok options ->
      options.extension = Text.trim extension := by
  intro hall
  have hsame := hall ".a,extension=.b".toList ⟨['.', 'b']⟩ rfl
  exact absurd hsame (by decide)

end Job
end ProtoModules
