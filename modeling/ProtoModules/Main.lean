import ProtoModules.Command
import ProtoModules.Plugin

/-!
# The program

Without arguments the program is a plugin: it answers the request on its input.
With arguments it is the command, which runs on a picture of the disk that holds
what the job reads; the files that the run leaves on the picture are then written
to the disk itself.  No schema compiler is started.
-/

namespace ProtoModules
namespace Main

partial def readAll (stream : IO.FS.Stream) (seen : ByteArray) : IO ByteArray := do
  let block <- stream.read 65536
  if block.isEmpty then return seen else readAll stream (seen ++ block)

def workDir : IO Path.Place := do
  let path := (<- IO.currentDir).toString
  return Path.place [] path.toList

def pathOf (place : Path.Place) : String :=
  String.ofList ('/' :: Text.joined "/" place)

/-- A picture of the disk that holds what stands at a path, if anything does. -/
def picture (workDir : Path.Place) (path : Text) : IO Disk := do
  let disk := ({} : Disk).withDirectory workDir
  let place := Path.place workDir path
  try
    let content <- IO.FS.readBinFile (String.ofList path)
    return disk.withFile place content.data.toList
  catch
    | .inappropriateType .. => return disk.withDirectory place
    | _ => return disk

def save (place : Path.Place) (content : Bytes) : IO Unit := do
  IO.FS.createDirAll (pathOf place.dropLast)
  IO.FS.writeBinFile (pathOf place) ⟨content.toArray⟩

def garbledNotice : String := "the descriptors hold a text that is not UTF-8"

def runAsPlugin : IO UInt32 := do
  let input <- readAll (<- IO.getStdin) ByteArray.empty
  match runPlugin (<- workDir) input.data.toList with
  | .returned status content messages =>
      let output <- IO.getStdout
      output.write ⟨content.toArray⟩
      output.flush
      IO.eprint (String.ofList messages)
      return UInt32.ofNat status
  | .crashed message =>
      IO.eprintln (String.ofList message)
      return 1
  | .garbled =>
      IO.eprintln garbledNotice
      return 1

def runAsCommand (arguments : List Text) : IO UInt32 := do
  let workDir <- workDir
  let path := match CommandLine.parse arguments with
    | .ok job => job.descriptorSet
    | .error _ => []
  let disk <- picture workDir path
  let outcome := Command.run arguments { workDir, disk }
  for (place, content) in (disk.changedFiles outcome.disk).reverse do
    save place content
  IO.print (String.ofList outcome.output)
  IO.eprint (String.ofList outcome.messages)
  match outcome.ending with
  | .returned status | .exited status => return UInt32.ofNat status
  | .crashed crash =>
      IO.eprintln (String.ofList crash.message)
      return 1
  | .garbled =>
      IO.eprintln garbledNotice
      return 1

end Main
end ProtoModules

def main (arguments : List String) : IO UInt32 :=
  if arguments.isEmpty then ProtoModules.Main.runAsPlugin
  else ProtoModules.Main.runAsCommand (arguments.map String.toList)
