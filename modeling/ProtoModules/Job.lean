import ProtoModules.Compile
import ProtoModules.Compiler
import ProtoModules.Disk.Directories
import ProtoModules.Options
import ProtoModules.Wire.Descriptor

/-!
# Jobs

A job takes a set of files, from a file on the disk or from the schema compiler,
and writes the modules of some of them below an output directory.  All modules
are generated before the first one is written.
-/

namespace ProtoModules

open Schema

/--
What is to be generated, and where to.  The output directory and a file name may be
lacking, which matters only when they are needed.
-/
structure Job where
  out : Option Text
  descriptorSet : Text := []
  sources : List Text := []
  includeDirs : List Text := []
  files : List (Option Text) := []
  extension : Text := ({} : Options).extension
deriving DecidableEq, Repr

structure Surroundings where
  workDir : Path.Place := []
  disk : Disk := {}
  compiler : Compiler.Reply := .missing
  setPath : Text := []

inductive JobError where
  | options (error : Options.Error)
  | unreadableSet (path : Text) (fault : Fault)
  | malformedSet (path : Text) (error : Wire.DecodeError)
  | compilerMissing
  | compilerFailed (messages : Text)
  | noSource
  | unknownFiles (names : List Text)
  | build (error : BuildError)
deriving DecidableEq, Repr

def JobError.message : JobError -> Text
  | options error => error.message
  | unreadableSet path fault =>
      "Cannot read descriptor set '".toList ++ path ++ "': ".toList ++ fault.message
  | malformedSet path error =>
      "'".toList ++ path ++ "' is not a serialized FileDescriptorSet: ".toList ++
        error.message Wire.fileSetType
  | compilerMissing =>
      ("'protoc' not found. Please install Protocol Buffers compiler and ensure it is in " ++
        "PATH.").toList
  | compilerFailed messages => "protoc failed: ".toList ++ messages
  | noSource => "Either a descriptor set or .proto files are required".toList
  | unknownFiles names => "Files not in descriptor set: ".toList ++ Text.joined ", " names
  | build error => error.message

/-- What a job lacks: the output directory, or a name among those not in its set. -/
inductive Lack where
  | out
  | file (position : Nat)
deriving DecidableEq, Repr

def Lack.message : Lack -> Text
  | out => "expected str, bytes or os.PathLike object, not list".toList
  | file position =>
      "sequence item ".toList ++ Text.ofInt position ++
        ": expected str instance, list found".toList

inductive Crash where
  | ofFault (fault : Fault)
  | ofLack (lack : Lack)
deriving DecidableEq, Repr

def Crash.message : Crash -> Text
  | ofFault fault => fault.message
  | ofLack lack => lack.message

/--
Why a job did not finish.  A garbled set of files is followed no further, so nothing
is said about what the job does with it.
-/
inductive JobFailure where
  | rejected (error : JobError)
  | crashed (crash : Crash)
  | garbled
deriving DecidableEq, Repr

structure JobRun where
  disk : Disk
  result : Except JobFailure (List Text)

namespace Job

def parseSet (path : Text) (content : Bytes) : Except JobFailure (List File) :=
  match Wire.readFileSet content with
  | .error error => .error (.rejected (.malformedSet path error))
  | .ok set => if set.garbled = [] then .ok set.value else .error .garbled

/-- Read a set of files from the disk.  A null character in its path breaks the job off. -/
def loadSet (disk : Disk) (workDir : Path.Place) (path : Text) :
    Except JobFailure (List File) :=
  match disk.readFile workDir path with
  | .ok content => parseSet path content
  | .error fault =>
      if fault.kind = .nullByte then .error (.crashed (.ofFault fault))
      else .error (.rejected (.unreadableSet path fault))

/--
Read the set of files that the schema compiler replied with.  It is not called at all
when an argument of its command has a null character.
-/
def compiledSet (setPath : Text) (command : List Text) (reply : Compiler.Reply) :
    Except JobFailure (List File) :=
  match command.find? (·.contains Path.nul) with
  | some argument => .error (.crashed (.ofFault ⟨.nullByte, argument⟩))
  | none =>
      match reply with
      | .missing => .error (.rejected .compilerMissing)
      | .failed messages => .error (.rejected (.compilerFailed (Text.ofUtf8 messages)))
      | .produced content => parseSet setPath content

def fileSet (job : Job) (around : Surroundings) : Except JobFailure (List File) :=
  if job.descriptorSet ≠ [] then loadSet around.disk around.workDir job.descriptorSet
  else if job.sources ≠ [] then
    compiledSet around.setPath
      (Compiler.command around.workDir around.setPath job.sources job.includeDirs)
      around.compiler
  else .error (.rejected .noSource)

def requested (job : Job) (fileNames : List Text) : List (Option Text) :=
  if job.files ≠ [] then job.files
  else if job.descriptorSet ≠ [] then fileNames.map some
  else (Compiler.namesOf job.sources fileNames).map some

def unknownFailure (unknown : List (Option Text)) : JobFailure :=
  match unknown.findIdx? Option.isNone with
  | some position => .crashed (.ofLack (.file position))
  | none => .rejected (.unknownFiles (unknown.filterMap id))

def outputs (job : Job) (around : Surroundings) : Except JobFailure (List OutputFile) := do
  let options <-
    (Options.ofParameter (Options.extensionParameter job.extension)).mapError
      (JobFailure.rejected ∘ JobError.options)
  let files <- job.fileSet around
  let fileNames := files.map File.name
  let requested := job.requested fileNames
  match requested.filter fun name => !(fileNames.map some).contains name with
  | [] =>
      (compile around.workDir files (requested.filterMap id) options.extension).mapError
        (JobFailure.rejected ∘ JobError.build)
  | unknown => .error (unknownFailure unknown)

def writeOutputs (workDir : Path.Place) (out : Text) (disk : Disk) :
    List OutputFile -> Disk × Option Fault
  | [] => (disk, none)
  | output :: rest =>
      match disk.writeDeep workDir (Path.join out output.name) output.content.utf8 with
      | (disk, some fault) => (disk, some fault)
      | (disk, none) => writeOutputs workDir out disk rest

/-- Write the modules of a job.  Without modules it needs no output directory. -/
def save (job : Job) (around : Surroundings) (outputs : List OutputFile) : JobRun :=
  match job.out, outputs with
  | none, [] => { disk := around.disk, result := .ok [] }
  | none, _ => { disk := around.disk, result := .error (.crashed (.ofLack .out)) }
  | some out, outputs =>
      match writeOutputs around.workDir out around.disk outputs with
      | (disk, some fault) => { disk, result := .error (.crashed (.ofFault fault)) }
      | (disk, none) =>
          { disk, result := .ok (outputs.map fun output => Path.join out output.name) }

def run (job : Job) (around : Surroundings) : JobRun :=
  match job.outputs around with
  | .error failure => { disk := around.disk, result := .error failure }
  | .ok outputs => job.save around outputs

end Job
end ProtoModules
