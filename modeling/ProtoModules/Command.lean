import ProtoModules.CommandLine.Settings

/-!
# The command

The command reads its arguments, runs the job they describe, and tells what it
wrote.  It writes nothing when the arguments are wrong or the job is rejected.
-/

namespace ProtoModules
namespace Command

/-- How the command ends.  Nothing is said about it when its set of files is garbled. -/
inductive Ending where
  | returned (status : Nat)
  | exited (status : Nat)
  | crashed (crash : Crash)
  | garbled
deriving DecidableEq, Repr

structure Outcome where
  ending : Ending
  output : Text := []
  messages : Text := []
  disk : Disk

def report : List Text -> Text
  | [] => "No files generated.\n".toList
  | paths => "Generated:\n".toList ++ Text.joined "\n" paths ++ ['\n']

def complaint (misuse : CommandLine.Misuse) : Text :=
  CommandLine.usage ++ "protoc-gen-mjs: error: ".toList ++ misuse.message ++ ['\n']

def ofJobRun (run : JobRun) : Outcome :=
  match run.result with
  | .ok paths => { ending := .returned 0, output := report paths, disk := run.disk }
  | .error (.rejected error) =>
      { ending := .returned 1
        messages := "FATAL: ".toList ++ error.message ++ ['\n']
        disk := run.disk }
  | .error (.crashed crash) => { ending := .crashed crash, disk := run.disk }
  | .error .garbled => { ending := .garbled, disk := run.disk }

def run (arguments : List Text) (around : Surroundings) : Outcome :=
  match CommandLine.parse arguments with
  | .ok job => ofJobRun (job.run around)
  | .error .help =>
      { ending := .exited 0, output := CommandLine.helpText, disk := around.disk }
  | .error (.misuse misuse) =>
      { ending := .exited 2, messages := complaint misuse, disk := around.disk }

end Command
end ProtoModules
