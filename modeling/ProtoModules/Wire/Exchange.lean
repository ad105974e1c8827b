import ProtoModules.Exchange
import ProtoModules.Wire.Descriptor

/-!
# Requests and responses in bytes

The written form of what a compiler asks and is answered.  The fields of a
response come in the order of their numbers.
-/

namespace ProtoModules
namespace Wire

open Schema

/-!
## Requests
-/

def parameterNumber : Nat := 2

/--
Take up one record of a request.  A requested name that is no text is the name of
no file, so it is passed over.
-/
def requestStep (levels : Nat) (read : Decoded Request) (record : Record) :
    Except DecodeError (Decoded Request) :=
  match record with
  | ⟨1, .block bytes⟩ =>
      .ok { read with value.requested := read.value.requested ++ (Text.ofUtf8? bytes).toList }
  | ⟨2, .block bytes⟩ =>
      .ok (read.setText parameterNumber bytes fun request parameter =>
        { request with parameter })
  | ⟨15, .block bytes⟩ => do
      let file <- readInner levels readFile bytes
      return read.addPart 15 file fun request file =>
        { request with files := request.files ++ [file] }
  | other => passOver levels .request other read

def readRequest (bytes : Bytes) : Except DecodeError (Decoded Request) :=
  foldRecords depthLimit (requestStep depthLimit) ⟨{}, []⟩ bytes

def requestType : String := "google.protobuf.compiler.CodeGeneratorRequest"

/-!
## Responses
-/

def outputStep (read : Decoded OutputFile) (record : Record) :
    Except DecodeError (Decoded OutputFile) :=
  .ok (match record with
    | ⟨1, .block bytes⟩ => read.setText 1 bytes fun output name => { output with name }
    | ⟨15, .block bytes⟩ => read.setText 15 bytes fun output content => { output with content }
    | _ => read)

def readOutput : Reader (Decoded OutputFile) := fun levels bytes =>
  foldRecords levels outputStep ⟨⟨[], []⟩, []⟩ bytes

def writeOutput (output : OutputFile) : Bytes :=
  Record.writeText 1 output.name ++ Record.writeText 15 output.content

def responseStep (levels : Nat) (read : Decoded Response) (record : Record) :
    Except DecodeError (Decoded Response) :=
  match record with
  | ⟨1, .block bytes⟩ =>
      .ok (read.setText 1 bytes fun response message => { response with error := some message })
  | ⟨2, .varint features⟩ => .ok { read with value.features := features }
  | ⟨15, .block bytes⟩ => do
      let output <- readInner levels readOutput bytes
      return read.addPart 15 output fun response output =>
        { response with files := response.files ++ [output] }
  | _ => .ok read

def readResponse (bytes : Bytes) : Except DecodeError (Decoded Response) :=
  foldRecords depthLimit (responseStep depthLimit) ⟨{}, []⟩ bytes

def writeResponse (response : Response) : Bytes :=
  (match response.error with
    | some message => Record.writeText 1 message
    | none => []) ++
  Record.writeValue 2 response.features ++
  response.files.flatMap fun output => Record.writeBlock 15 (writeOutput output)

end Wire
end ProtoModules
