import ProtoModules.Schema.Basic
import ProtoModules.Wire.Part

/-!
# Descriptors

The written form of schema files.  Of a value that may occur once the last
occurrence counts, the options of a message add up, and a label or a type that
is not known is passed over.  Records of other fields, or of known fields with
another kind, leave no trace, but they are checked.  Only the texts that are kept
have to be texts.
-/

namespace ProtoModules
namespace Wire

open Schema

/-!
## Enums
-/

def enumValueStep (levels : Nat) (read : Decoded EnumValue) (record : Record) :
    Except DecodeError (Decoded EnumValue) :=
  match record with
  | ⟨1, .block bytes⟩ => .ok (read.setText 1 bytes fun value name => { value with name })
  | ⟨2, .varint number⟩ => .ok { read with value.number := signedValue number }
  | other => passOver levels .enumValue other read

def readEnumValue : Reader (Decoded EnumValue) := fun levels bytes =>
  foldRecords levels (enumValueStep levels) ⟨{}, []⟩ bytes

def writeEnumValue (value : EnumValue) : Bytes :=
  Record.writeText 1 value.name ++ Record.writeSigned 2 value.number

def enumStep (levels : Nat) (read : Decoded Enum) (record : Record) :
    Except DecodeError (Decoded Enum) :=
  match record with
  | ⟨1, .block bytes⟩ => .ok (read.setText 1 bytes fun enum name => { enum with name })
  | ⟨2, .block bytes⟩ => do
      let value <- readInner levels readEnumValue bytes
      return read.addPart 2 value fun enum value =>
        { enum with values := enum.values ++ [value] }
  | other => passOver levels .enum other read

def readEnum : Reader (Decoded Enum) := fun levels bytes =>
  foldRecords levels (enumStep levels) ⟨{}, []⟩ bytes

def writeEnum (enum : Enum) : Bytes :=
  Record.writeText 1 enum.name ++
    enum.values.flatMap fun value => Record.writeBlock 2 (writeEnumValue value)

/-!
## Fields
-/

def fieldStep (levels : Nat) (read : Decoded Field) (record : Record) :
    Except DecodeError (Decoded Field) :=
  match record with
  | ⟨1, .block bytes⟩ => .ok (read.setText 1 bytes fun field name => { field with name })
  | ⟨3, .varint number⟩ => .ok { read with value.number := signedValue number }
  | ⟨4, .varint code⟩ =>
      .ok { read with
        value.label := (Label.ofNumber? (code % 0x100000000)).getD read.value.label }
  | ⟨5, .varint code⟩ =>
      .ok { read with
        value.type := (FieldType.ofNumber? (code % 0x100000000)).getD read.value.type }
  | ⟨6, .block bytes⟩ =>
      .ok (read.setText 6 bytes fun field typeName => { field with typeName })
  | other => passOver levels .field other read

def readField : Reader (Decoded Field) := fun levels bytes =>
  foldRecords levels (fieldStep levels) ⟨{}, []⟩ bytes

def writeField (field : Field) : Bytes :=
  Record.writeText 1 field.name ++
  Record.writeSigned 3 field.number ++
  Record.writeValue 4 field.label.number ++
  Record.writeValue 5 field.type.number ++
  Record.writeText 6 field.typeName

/-!
## Messages
-/

def optionsStep (levels : Nat) (isMapEntry : Bool) (record : Record) :
    Except DecodeError Bool :=
  match record with
  | ⟨7, .varint value⟩ => .ok (value != 0)
  | other => passOver levels .messageOptions other isMapEntry

/-- Read the options of a message on top of those read before. -/
def readOptions (isMapEntry : Bool) : Reader Bool := fun levels bytes =>
  foldRecords levels (optionsStep levels) isMapEntry bytes

def messageStep (levels : Nat) (readNested : Bytes -> Except DecodeError (Decoded Message))
    (read : Decoded Message) (record : Record) : Except DecodeError (Decoded Message) :=
  match record with
  | ⟨1, .block bytes⟩ => .ok (read.setText 1 bytes fun message name => { message with name })
  | ⟨2, .block bytes⟩ => do
      let field <- readInner levels readField bytes
      return read.addPart 2 field fun message field =>
        { message with fields := message.fields ++ [field] }
  | ⟨3, .block bytes⟩ => do
      let nested <- readNested bytes
      return read.addPart 3 nested fun message nested =>
        { message with nested := message.nested ++ [nested] }
  | ⟨4, .block bytes⟩ => do
      let enum <- readInner levels readEnum bytes
      return read.addPart 4 enum fun message enum =>
        { message with enums := message.enums ++ [enum] }
  | ⟨7, .block bytes⟩ => do
      let isMapEntry <- readInner levels (readOptions read.value.isMapEntry) bytes
      return { read with value.isMapEntry := isMapEntry }
  | other => passOver levels .message other read

def readMessage : Reader (Decoded Message)
  | 0, bytes => foldRecords 0 (messageStep 0 fun _ => .error .tooDeep) ⟨{}, []⟩ bytes
  | levels + 1, bytes =>
      foldRecords (levels + 1) (messageStep (levels + 1) (readMessage levels)) ⟨{}, []⟩ bytes

mutual

def writeMessage : Message -> Bytes
  | ⟨name, fields, nested, enums, isMapEntry⟩ =>
      Record.writeText 1 name ++
      (fields.flatMap fun field => Record.writeBlock 2 (writeField field)) ++
      writeNested 3 nested ++
      (enums.flatMap fun enum => Record.writeBlock 4 (writeEnum enum)) ++
      (if isMapEntry then Record.writeBlock 7 (Record.writeValue 7 1) else [])

def writeNested (number : Nat) : List Message -> Bytes
  | [] => []
  | message :: rest =>
      Record.writeBlock number (writeMessage message) ++ writeNested number rest

end

/-!
## Files
-/

def fileStep (levels : Nat) (read : Decoded File) (record : Record) :
    Except DecodeError (Decoded File) :=
  match record with
  | ⟨1, .block bytes⟩ => .ok (read.setText 1 bytes fun file name => { file with name })
  | ⟨2, .block bytes⟩ => .ok (read.setText 2 bytes fun file package => { file with package })
  | ⟨4, .block bytes⟩ => do
      let message <- readInner levels readMessage bytes
      return read.addPart 4 message fun file message =>
        { file with messages := file.messages ++ [message] }
  | ⟨5, .block bytes⟩ => do
      let enum <- readInner levels readEnum bytes
      return read.addPart 5 enum fun file enum => { file with enums := file.enums ++ [enum] }
  | other => passOver levels .file other read

def readFile : Reader (Decoded File) := fun levels bytes =>
  foldRecords levels (fileStep levels) ⟨{}, []⟩ bytes

def writeFile (file : File) : Bytes :=
  Record.writeText 1 file.name ++
  Record.writeText 2 file.package ++
  writeNested 4 file.messages ++
  (file.enums.flatMap fun enum => Record.writeBlock 5 (writeEnum enum))

def fileSetStep (levels : Nat) (read : Decoded (List File)) (record : Record) :
    Except DecodeError (Decoded (List File)) :=
  match record with
  | ⟨1, .block bytes⟩ => do
      let file <- readInner levels readFile bytes
      return read.addPart 1 file fun files file => files ++ [file]
  | other => passOver levels .fileSet other read

def readFileSet (bytes : Bytes) : Except DecodeError (Decoded (List File)) :=
  foldRecords depthLimit (fileSetStep depthLimit) ⟨[], []⟩ bytes

def writeFileSet (files : List File) : Bytes :=
  files.flatMap fun file => Record.writeBlock 1 (writeFile file)

def fileSetType : String := "google.protobuf.FileDescriptorSet"

end Wire
end ProtoModules
