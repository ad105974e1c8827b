import ProtoModules.Wire.Record

/-!
# Reading and writing messages

A message is read by folding a step over its records in order, so the first
defect of the bytes is the one that is reported.  Messages inside messages may
nest to a certain depth: a reader is given the number of levels that are left,
which also bounds how deep unknown groups may go.

Bytes that should be a text may be those of no text.  This makes the message no
less well formed, so reading goes on and keeps the number of the field.
-/

namespace ProtoModules
namespace Wire

inductive DecodeError where
  | corrupt
  | tooDeep
deriving DecidableEq, Repr

def DecodeError.message (typeName : String) (error : DecodeError) : Text :=
  let why := match error with
    | corrupt => "Wire format was corrupt"
    | tooDeep => "Exceeded upb_DecodeOptions_MaxDepth"
  ("Error parsing message with type '" ++ typeName ++ "': " ++ why).toList

abbrev Reader (α : Type) := Nat -> Bytes -> Except DecodeError α

def depthLimit : Nat := 100

def foldRecords {σ : Type} (levels : Nat) (step : σ -> Record -> Except DecodeError σ)
    (state : σ) (bytes : Bytes) : Except DecodeError σ :=
  if bytes.isEmpty then .ok state
  else
    match _hread : Record.read levels bytes with
    | none => .error .corrupt
    | some (record, rest) =>
        match step state record with
        | .error error => .error error
        | .ok state => foldRecords levels step state rest
  termination_by bytes.length
  decreasing_by exact Record.length_lt_of_read _hread

def readInner {α : Type} (levels : Nat) (reader : Reader α) (bytes : Bytes) :
    Except DecodeError α :=
  match levels with
  | 0 => .error .tooDeep
  | levels + 1 => reader levels bytes

/--
What is read of a message.  A field is garbled when it should be a text and its
last bytes are those of no text, or when a message that it holds is garbled.
-/
structure Decoded (α : Type) where
  value : α
  garbled : List Nat := []
deriving DecidableEq, Repr

namespace Decoded

variable {α β : Type}

/-- Take up the bytes of a text in place of those that the field had before. -/
def setText (decoded : Decoded α) (number : Nat) (bytes : Bytes) (set : α -> Text -> α) :
    Decoded α :=
  match Text.ofUtf8? bytes with
  | some text =>
      { value := set decoded.value text
        garbled := decoded.garbled.filter (· ≠ number) }
  | none => { decoded with garbled := number :: decoded.garbled }

def addPart (decoded : Decoded α) (number : Nat) (part : Decoded β) (add : α -> β -> α) :
    Decoded α where
  value := add decoded.value part.value
  garbled := if part.garbled = [] then decoded.garbled else number :: decoded.garbled

@[simp] theorem setText_utf8 (value : α) (number : Nat) (text : Text) (set : α -> Text -> α) :
    setText ⟨value, []⟩ number text.utf8 set = ⟨set value text, []⟩ := by
  rw [setText, Text.ofUtf8?_utf8]
  rfl

end Decoded

def signedValue (value : Nat) : Int32 :=
  Int32.ofNat value

/-- The value of a signed number, which extends its sign to sixty-four bits. -/
def valueOfSigned (number : Int32) : Nat :=
  (number.toInt % 0x10000000000000000).toNat

namespace Record

def writeValue (number value : Nat) : Bytes :=
  Tag.write ⟨number, .varint⟩ ++ Varint.write value

def writeBlock (number : Nat) (content : Bytes) : Bytes :=
  Tag.write ⟨number, .block⟩ ++ Varint.write content.length ++ content

def writeText (number : Nat) (text : Text) : Bytes :=
  writeBlock number text.utf8

def writeSigned (number : Nat) (value : Int32) : Bytes :=
  writeValue number (valueOfSigned value)

/-!
## Reading inverts writing
-/

@[simp] theorem cut_append (content rest : Bytes) :
    cut content.length (content ++ rest) = some (content, rest) := by
  simp [cut]

/-- A record that holds a number is read back, whatever follows it. -/
theorem read_writeValue {levels number value : Nat} (hpos : 0 < number)
    (hlt : number < 0x20000000) (hvalue : value < 0x10000000000000000) (rest : Bytes) :
    read levels (writeValue number value ++ rest) = some (⟨number, .varint value⟩, rest) := by
  rw [writeValue, List.append_assoc, read, Tag.readField_write hpos hlt]
  simp [readPlain, Varint.readValue_write hvalue]

/-- A record that holds a block is read back, whatever follows it. -/
theorem read_writeBlock {levels number : Nat} {content : Bytes} (hpos : 0 < number)
    (hlt : number < 0x20000000) (hlength : content.length < 0x80000000) (rest : Bytes) :
    read levels (writeBlock number content ++ rest) = some (⟨number, .block content⟩, rest) := by
  rw [writeBlock, List.append_assoc, List.append_assoc, read, Tag.readField_write hpos hlt]
  simp [readPlain, Varint.readLength_write hlength]

end Record

@[simp] theorem signedValue_valueOfSigned (number : Int32) :
    signedValue (valueOfSigned number) = number := by
  apply Int32.toInt_inj.mp
  have hlow := Int32.le_toInt number
  have hhigh := Int32.toInt_lt number
  have hnat : ((number.toInt % 0x10000000000000000).toNat : Int) =
      number.toInt % 0x10000000000000000 := Int.toNat_of_nonneg (by omega)
  have hsize : (Int32.size : Int) = 4294967296 := rfl
  simp only [signedValue, valueOfSigned, Int32.toInt_ofNat', hnat]
  rw [Int.bmod_def, hsize]
  omega

theorem valueOfSigned_lt (number : Int32) : valueOfSigned number < 0x10000000000000000 := by
  unfold valueOfSigned
  omega

/-- The records of a message are taken up one after the other. -/
theorem foldRecords_of_read {σ : Type} {levels : Nat}
    {step : σ -> Record -> Except DecodeError σ} {state : σ} {bytes rest : Bytes}
    {record : Record} (h : Record.read levels bytes = some (record, rest)) :
    foldRecords levels step state bytes =
      step state record >>= fun state => foldRecords levels step state rest := by
  have hne : bytes ≠ [] := by
    intro hnil
    subst hnil
    have := Record.length_lt_of_read h
    simp at this
  rw [foldRecords]
  simp only [List.isEmpty_iff, hne, if_false]
  split
  · simp_all
  · simp_all
    cases step state record <;> rfl

end Wire
end ProtoModules
