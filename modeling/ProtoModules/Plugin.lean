import ProtoModules.Wire.Exchange

/-!
# Running as a plugin

A compiler writes a request to the plugin's input and reads the response from
its output.  Bytes that are no request get no response, only a message.  Nor does
a request get a response when its parameter is no text.
-/

namespace ProtoModules

/--
What comes of a plugin run.  It returns a status when it has written what it has to
write, or it breaks off and has written nothing.  A garbled set of files is followed
no further, so nothing is said about the run.
-/
inductive PluginRun where
  | returned (status : Nat) (output : Bytes) (messages : Text)
  | crashed (message : Text)
  | garbled
deriving DecidableEq, Repr

def parameterCrash : PluginRun :=
  .crashed "a bytes-like object is required, not 'str'".toList

def runPlugin (workDir : Path.Place) (input : Bytes) : PluginRun :=
  match Wire.readRequest input with
  | .error error =>
      .returned 1 [] ("FATAL: Failed to parse CodeGeneratorRequest from stdin: ".toList ++
        error.message Wire.requestType ++ ['\n'])
  | .ok request =>
      -- The parameter is looked at before the files are.
      if Wire.parameterNumber ∈ request.garbled then parameterCrash
      else if request.garbled ≠ [] then .garbled
      else .returned 0 (Wire.writeResponse (request.value.answer workDir)) []

end ProtoModules
