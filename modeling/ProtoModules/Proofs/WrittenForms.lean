import ProtoModules.Wire.Exchange

/-!
# Written forms of descriptions

A description is written field by field in the order of their numbers.  A field that occurs
once may be left out where it has its default value, so one description has several written
forms, and a form says how many levels of messages it needs.  Reading any of them gives the
description back.
-/

namespace ProtoModules
namespace Wire

open Schema

/-- The number of bytes that a serialized message stays below. -/
def sizeLimit : Nat := 0x80000000

/-- The bytes of a field that may be left out where it has its default value. -/
def Omissible (isDefault : Prop) (full bytes : Bytes) : Prop :=
  bytes = full ∨ isDefault ∧ bytes = []

/-- The records of some messages, which lie one level further down. -/
inductive Blocks {α : Type} (number : Nat) (Form : Nat -> α -> Bytes -> Prop) :
    Nat -> List α -> Bytes -> Prop where
  | nil {levels : Nat} : Blocks number Form levels [] []
  | cons {levels : Nat} {item : α} {items : List α} {content bytes : Bytes} :
      Form levels item content -> Blocks number Form (levels + 1) items bytes ->
      Blocks number Form (levels + 1) (item :: items)
        (Record.writeBlock number content ++ bytes)

inductive EnumValueForm : Nat -> EnumValue -> Bytes -> Prop where
  | intro {levels : Nat} {value : EnumValue} {name number : Bytes} :
      Omissible (value.name = []) (Record.writeText 1 value.name) name ->
      Omissible (value.number = 0) (Record.writeSigned 2 value.number) number ->
      EnumValueForm levels value [name, number].flatten

inductive EnumForm : Nat -> Enum -> Bytes -> Prop where
  | intro {levels : Nat} {enum : Enum} {name values : Bytes} :
      Omissible (enum.name = []) (Record.writeText 1 enum.name) name ->
      Blocks 2 EnumValueForm levels enum.values values ->
      EnumForm levels enum [name, values].flatten

inductive FieldForm : Nat -> Field -> Bytes -> Prop where
  | intro {levels : Nat} {field : Field} {name number label type typeName : Bytes} :
      Omissible (field.name = []) (Record.writeText 1 field.name) name ->
      Omissible (field.number = 0) (Record.writeSigned 3 field.number) number ->
      Omissible (field.label = .optional) (Record.writeValue 4 field.label.number) label ->
      Omissible (field.type = .double) (Record.writeValue 5 field.type.number) type ->
      Omissible (field.typeName = []) (Record.writeText 6 field.typeName) typeName ->
      FieldForm levels field [name, number, label, type, typeName].flatten

/-- The options of a message are a message of their own, which may be there for nothing. -/
inductive OptionsForm : Nat -> Bool -> Bytes -> Prop where
  | absent {levels : Nat} : OptionsForm levels false []
  | present {levels : Nat} {isMapEntry : Bool} {content : Bytes} :
      Omissible (isMapEntry = false) (Record.writeValue 7 isMapEntry.toNat) content ->
      OptionsForm (levels + 1) isMapEntry (Record.writeBlock 7 content)

inductive MessageForm : Nat -> Message -> Bytes -> Prop where
  | intro {levels : Nat} {message : Message} {name fields nested enums options : Bytes} :
      Omissible (message.name = []) (Record.writeText 1 message.name) name ->
      Blocks 2 FieldForm levels message.fields fields ->
      Blocks 3 MessageForm levels message.nested nested ->
      Blocks 4 EnumForm levels message.enums enums ->
      OptionsForm levels message.isMapEntry options ->
      MessageForm levels message [name, fields, nested, enums, options].flatten

inductive FileForm : Nat -> File -> Bytes -> Prop where
  | intro {levels : Nat} {file : File} {name package messages enums : Bytes} :
      Omissible (file.name = []) (Record.writeText 1 file.name) name ->
      Omissible (file.package = []) (Record.writeText 2 file.package) package ->
      Blocks 4 MessageForm levels file.messages messages ->
      Blocks 5 EnumForm levels file.enums enums ->
      FileForm levels file [name, package, messages, enums].flatten

def FileSetForm (levels : Nat) (files : List File) (bytes : Bytes) : Prop :=
  Blocks 1 FileForm levels files bytes

section Fields

variable {σ : Type} {levels : Nat} {step : σ -> Record -> Except DecodeError σ}

theorem foldRecords_nil (state : σ) : foldRecords levels step state [] = .ok state := by
  rw [foldRecords]
  rfl

theorem foldRecords_block {number : Nat} {content : Bytes} {state next : σ}
    (hnumber : 0 < number ∧ number < 0x20000000) (hsize : content.length < sizeLimit)
    (hstep : step state ⟨number, .block content⟩ = .ok next) (rest : Bytes) :
    foldRecords levels step state (Record.writeBlock number content ++ rest) =
      foldRecords levels step next rest := by
  rw [foldRecords_of_read (Record.read_writeBlock hnumber.1 hnumber.2 hsize rest), hstep]
  rfl

theorem foldRecords_value {number value : Nat} {state next : σ}
    (hnumber : 0 < number ∧ number < 0x20000000) (hvalue : value < 0x10000000000000000)
    (hstep : step state ⟨number, .varint value⟩ = .ok next) (rest : Bytes) :
    foldRecords levels step state (Record.writeValue number value ++ rest) =
      foldRecords levels step next rest := by
  rw [foldRecords_of_read (Record.read_writeValue hnumber.1 hnumber.2 hvalue rest), hstep]
  rfl

/-- A field that is left out changes nothing, for the state has its default value already. -/
theorem foldRecords_omissible {isDefault : Prop} {full bytes rest : Bytes} {state next : σ}
    (hform : Omissible isDefault full bytes) (hdefault : isDefault -> next = state)
    (hfull : bytes = full -> foldRecords levels step state (full ++ rest) =
      foldRecords levels step next rest) :
    foldRecords levels step state (bytes ++ rest) = foldRecords levels step next rest := by
  rcases hform with heq | ⟨hisDefault, heq⟩
  · rw [heq]
    exact hfull heq
  · rw [heq, hdefault hisDefault]
    rfl

theorem length_lt_of_writeBlock {number : Nat} {content : Bytes}
    (hsize : (Record.writeBlock number content).length < sizeLimit) :
    content.length < sizeLimit := by
  refine Nat.lt_of_le_of_lt ?_ hsize
  rw [Record.writeBlock, List.length_append]
  exact Nat.le_add_left _ _

theorem foldRecords_text {number : Nat} {text : Text} {bytes : Bytes} {state next : σ}
    (hform : Omissible (text = []) (Record.writeText number text) bytes)
    (hnumber : 0 < number ∧ number < 0x20000000) (hsize : bytes.length < sizeLimit)
    (hdefault : text = [] -> next = state)
    (hstep : step state ⟨number, .block text.utf8⟩ = .ok next) (rest : Bytes) :
    foldRecords levels step state (bytes ++ rest) = foldRecords levels step next rest := by
  apply foldRecords_omissible hform hdefault
  intro heq
  rw [heq] at hsize
  exact foldRecords_block hnumber (length_lt_of_writeBlock hsize) hstep rest

theorem foldRecords_number {isDefault : Prop} {number value : Nat} {bytes : Bytes}
    {state next : σ} (hform : Omissible isDefault (Record.writeValue number value) bytes)
    (hnumber : 0 < number ∧ number < 0x20000000) (hvalue : value < 0x10000000000000000)
    (hdefault : isDefault -> next = state)
    (hstep : step state ⟨number, .varint value⟩ = .ok next) (rest : Bytes) :
    foldRecords levels step state (bytes ++ rest) = foldRecords levels step next rest := by
  apply foldRecords_omissible hform hdefault
  intro _
  exact foldRecords_value hnumber hvalue hstep rest

/-- Messages of a field are read one after the other and put behind those read before. -/
theorem foldRecords_blocks {α : Type} {number : Nat} {Form : Nat -> α -> Bytes -> Prop}
    {items : List α} {bytes : Bytes} {build : List α -> σ}
    (hform : Blocks number Form levels items bytes)
    (hnumber : 0 < number ∧ number < 0x20000000) (hsize : bytes.length < sizeLimit)
    (hstep : forall inner done item content, levels = inner + 1 ->
      Form inner item content -> content.length < sizeLimit ->
      step (build done) ⟨number, .block content⟩ = .ok (build (done ++ [item])))
    (done : List α) (rest : Bytes) :
    foldRecords levels step (build done) (bytes ++ rest) =
      foldRecords levels step (build (done ++ items)) rest := by
  induction hform generalizing done with
  | nil => simp
  | cons hitem _ ih =>
      rw [List.length_append] at hsize
      have hblock := length_lt_of_writeBlock (Nat.lt_of_le_of_lt (Nat.le_add_right _ _) hsize)
      have hrest := ih (Nat.lt_of_le_of_lt (Nat.le_add_left _ _) hsize) hstep
      rw [List.append_assoc]
      refine (foldRecords_block hnumber hblock (hstep _ done _ _ rfl hitem hblock) _).trans ?_
      rw [hrest, List.append_assoc]
      rfl

end Fields

theorem length_lt_of_mem {part : Bytes} {parts : List Bytes}
    (hsize : parts.flatten.length < sizeLimit) (hpart : part ∈ parts) :
    part.length < sizeLimit :=
  Nat.lt_of_le_of_lt (List.sublist_flatten_of_mem hpart).length_le hsize

/-!
## Reading a form back
-/

theorem readEnumValue_of_form {levels : Nat} {value : EnumValue} {bytes : Bytes}
    (hform : EnumValueForm levels value bytes) (hsize : bytes.length < sizeLimit) :
    readEnumValue levels bytes = .ok ⟨value, []⟩ := by
  cases hform with
  | @intro name number hname hnumber =>
      have hsizes : forall part, part ∈ [name, number] -> part.length < sizeLimit :=
        fun _ => length_lt_of_mem hsize
      calc readEnumValue levels [name, number].flatten
          = foldRecords levels (enumValueStep levels) ⟨{}, []⟩ (name ++ (number ++ [])) := rfl
        _ = foldRecords levels (enumValueStep levels) ⟨{ name := value.name }, []⟩
              (number ++ []) :=
          foldRecords_text hname (by decide) (hsizes name (by simp))
            (fun hdefault => by rw [hdefault])
            (by simp only [enumValueStep, Decoded.setText_utf8]) _
        _ = foldRecords levels (enumValueStep levels) ⟨value, []⟩ [] :=
          foldRecords_number hnumber (by decide) (valueOfSigned_lt value.number)
            (fun hdefault => by rw [← hdefault])
            (by simp only [enumValueStep, signedValue_valueOfSigned]) _
        _ = .ok ⟨value, []⟩ := foldRecords_nil _

theorem readEnum_of_form {levels : Nat} {enum : Enum} {bytes : Bytes}
    (hform : EnumForm levels enum bytes) (hsize : bytes.length < sizeLimit) :
    readEnum levels bytes = .ok ⟨enum, []⟩ := by
  cases hform with
  | @intro name values hname hvalues =>
      have hsizes : forall part, part ∈ [name, values] -> part.length < sizeLimit :=
        fun _ => length_lt_of_mem hsize
      have hstep : forall inner done value content, levels = inner + 1 ->
          EnumValueForm inner value content -> content.length < sizeLimit ->
          enumStep levels ⟨⟨enum.name, done⟩, []⟩ ⟨2, .block content⟩ =
            .ok ⟨⟨enum.name, done ++ [value]⟩, []⟩ := by
        intro inner done value content hlevels hvalue hcontent
        simp only [enumStep, hlevels, readInner, readEnumValue_of_form hvalue hcontent]
        rfl
      calc readEnum levels [name, values].flatten
          = foldRecords levels (enumStep levels) ⟨{}, []⟩ (name ++ (values ++ [])) := rfl
        _ = foldRecords levels (enumStep levels) ⟨⟨enum.name, []⟩, []⟩ (values ++ []) :=
          foldRecords_text hname (by decide) (hsizes name (by simp))
            (fun hdefault => by rw [hdefault])
            (by simp only [enumStep, Decoded.setText_utf8]) _
        _ = foldRecords levels (enumStep levels) ⟨⟨enum.name, [] ++ enum.values⟩, []⟩ [] :=
          foldRecords_blocks hvalues (by decide) (hsizes values (by simp)) hstep [] []
        _ = .ok ⟨enum, []⟩ := foldRecords_nil _

theorem readField_of_form {levels : Nat} {field : Field} {bytes : Bytes}
    (hform : FieldForm levels field bytes) (hsize : bytes.length < sizeLimit) :
    readField levels bytes = .ok ⟨field, []⟩ := by
  cases hform with
  | @intro name number label type typeName hname hnumber hlabel htype htypeName =>
      have hsizes : forall part, part ∈ [name, number, label, type, typeName] ->
          part.length < sizeLimit := fun _ => length_lt_of_mem hsize
      have hlabelCode : field.label.number % 0x100000000 = field.label.number := by
        cases field.label <;> rfl
      have htypeCode : field.type.number % 0x100000000 = field.type.number := by
        cases field.type <;> rfl
      have hlabelSize : field.label.number < 0x10000000000000000 := by
        cases field.label <;> decide
      have htypeSize : field.type.number < 0x10000000000000000 := by
        cases field.type <;> decide
      calc readField levels [name, number, label, type, typeName].flatten
          = foldRecords levels (fieldStep levels) ⟨{}, []⟩
              (name ++ (number ++ (label ++ (type ++ (typeName ++ []))))) := rfl
        _ = foldRecords levels (fieldStep levels) ⟨{ name := field.name }, []⟩
              (number ++ (label ++ (type ++ (typeName ++ [])))) :=
          foldRecords_text hname (by decide) (hsizes name (by simp))
            (fun hdefault => by rw [hdefault])
            (by simp only [fieldStep, Decoded.setText_utf8]) _
        _ = foldRecords levels (fieldStep levels)
              ⟨{ name := field.name, number := field.number }, []⟩
              (label ++ (type ++ (typeName ++ []))) :=
          foldRecords_number hnumber (by decide) (valueOfSigned_lt field.number)
            (fun hdefault => by rw [hdefault])
            (by simp only [fieldStep, signedValue_valueOfSigned]) _
        _ = foldRecords levels (fieldStep levels)
              ⟨{ name := field.name, number := field.number, label := field.label }, []⟩
              (type ++ (typeName ++ [])) :=
          foldRecords_number hlabel (by decide) hlabelSize (fun hdefault => by rw [hdefault])
            (by simp only [fieldStep, hlabelCode, Label.ofNumber?_number, Option.getD_some]) _
        _ = foldRecords levels (fieldStep levels)
              ⟨{ name := field.name, number := field.number, label := field.label
                 type := field.type }, []⟩ (typeName ++ []) :=
          foldRecords_number htype (by decide) htypeSize (fun hdefault => by rw [hdefault])
            (by simp only [fieldStep, htypeCode, FieldType.ofNumber?_number,
              Option.getD_some]) _
        _ = foldRecords levels (fieldStep levels) ⟨field, []⟩ [] :=
          foldRecords_text htypeName (by decide) (hsizes typeName (by simp))
            (fun hdefault => by rw [← hdefault])
            (by simp only [fieldStep, Decoded.setText_utf8]) _
        _ = .ok ⟨field, []⟩ := foldRecords_nil _

theorem readOptions_of_omissible {levels : Nat} {isMapEntry : Bool} {content : Bytes}
    (hform : Omissible (isMapEntry = false) (Record.writeValue 7 isMapEntry.toNat) content) :
    readOptions false levels content = .ok isMapEntry := by
  have hvalue : isMapEntry.toNat < 0x10000000000000000 := by cases isMapEntry <;> decide
  calc readOptions false levels content
      = foldRecords levels (optionsStep levels) false (content ++ []) := by
        rw [List.append_nil]
        rfl
    _ = foldRecords levels (optionsStep levels) isMapEntry [] :=
      foldRecords_number hform (by decide) hvalue (fun hdefault => hdefault)
        (by cases isMapEntry <;> rfl) _
    _ = .ok isMapEntry := foldRecords_nil isMapEntry

theorem readMessage_eq (levels : Nat) (bytes : Bytes) :
    readMessage levels bytes =
      foldRecords levels (messageStep levels (readInner levels readMessage)) ⟨{}, []⟩ bytes := by
  cases levels <;> rfl

theorem foldRecords_options {levels : Nat} {message : Message} {bytes : Bytes}
    (hform : OptionsForm levels message.isMapEntry bytes) (hsize : bytes.length < sizeLimit)
    (readNested : Bytes -> Except DecodeError (Decoded Message)) :
    foldRecords levels (messageStep levels readNested)
        ⟨{ message with isMapEntry := false }, []⟩ (bytes ++ []) = .ok ⟨message, []⟩ := by
  rcases message with ⟨name, fields, nested, enums, isMapEntry⟩
  cases hform with
  | absent => exact foldRecords_nil _
  | @present inner _ content hcontent =>
      have hstep : messageStep (inner + 1) readNested ⟨⟨name, fields, nested, enums, false⟩, []⟩
          ⟨7, .block content⟩ = .ok ⟨⟨name, fields, nested, enums, isMapEntry⟩, []⟩ := by
        simp only [messageStep, readInner, readOptions_of_omissible hcontent]
        rfl
      exact (foldRecords_block (by decide) (length_lt_of_writeBlock hsize) hstep []).trans
        (foldRecords_nil _)

/-- A message is read back if the messages in it are. -/
theorem readMessage_of_nested {levels : Nat} {message : Message} {bytes : Bytes}
    (hform : MessageForm levels message bytes) (hsize : bytes.length < sizeLimit)
    (hread : forall inner nested content, levels = inner + 1 ->
      MessageForm inner nested content -> content.length < sizeLimit ->
      readMessage inner content = .ok ⟨nested, []⟩) :
    readMessage levels bytes = .ok ⟨message, []⟩ := by
  cases hform with
  | @intro _ _ name fields nested enums options hname hfields hnested henums hoptions =>
      have hsizes : forall part, part ∈ [name, fields, nested, enums, options] ->
          part.length < sizeLimit := fun _ => length_lt_of_mem hsize
      have hfield : forall inner done field content, levels = inner + 1 ->
          FieldForm inner field content -> content.length < sizeLimit ->
          messageStep levels (readInner levels readMessage)
              ⟨⟨message.name, done, [], [], false⟩, []⟩ ⟨2, .block content⟩ =
            .ok ⟨⟨message.name, done ++ [field], [], [], false⟩, []⟩ := by
        intro inner done field content hlevels hfield hcontent
        simp only [messageStep, hlevels, readInner, readField_of_form hfield hcontent]
        rfl
      have hinside : forall inner done message' content, levels = inner + 1 ->
          MessageForm inner message' content -> content.length < sizeLimit ->
          messageStep levels (readInner levels readMessage)
              ⟨⟨message.name, message.fields, done, [], false⟩, []⟩ ⟨3, .block content⟩ =
            .ok ⟨⟨message.name, message.fields, done ++ [message'], [], false⟩, []⟩ := by
        intro inner done message' content hlevels hmessage hcontent
        have hinner := hread inner message' content hlevels hmessage hcontent
        simp only [messageStep, hlevels, readInner, hinner]
        rfl
      have henum : forall inner done enum content, levels = inner + 1 ->
          EnumForm inner enum content -> content.length < sizeLimit ->
          messageStep levels (readInner levels readMessage)
              ⟨⟨message.name, message.fields, message.nested, done, false⟩, []⟩
              ⟨4, .block content⟩ =
            .ok ⟨⟨message.name, message.fields, message.nested, done ++ [enum], false⟩, []⟩ := by
        intro inner done enum content hlevels henum hcontent
        simp only [messageStep, hlevels, readInner, readEnum_of_form henum hcontent]
        rfl
      calc readMessage levels [name, fields, nested, enums, options].flatten
          = foldRecords levels (messageStep levels (readInner levels readMessage)) ⟨{}, []⟩
              (name ++ (fields ++ (nested ++ (enums ++ (options ++ []))))) :=
            readMessage_eq levels _
        _ = foldRecords levels (messageStep levels (readInner levels readMessage))
              ⟨⟨message.name, [], [], [], false⟩, []⟩
              (fields ++ (nested ++ (enums ++ (options ++ [])))) :=
          foldRecords_text hname (by decide) (hsizes name (by simp))
            (fun hdefault => by rw [hdefault])
            (by simp only [messageStep, Decoded.setText_utf8]) _
        _ = foldRecords levels (messageStep levels (readInner levels readMessage))
              ⟨⟨message.name, [] ++ message.fields, [], [], false⟩, []⟩
              (nested ++ (enums ++ (options ++ []))) :=
          foldRecords_blocks hfields (by decide) (hsizes fields (by simp)) hfield [] _
        _ = foldRecords levels (messageStep levels (readInner levels readMessage))
              ⟨⟨message.name, message.fields, [] ++ message.nested, [], false⟩, []⟩
              (enums ++ (options ++ [])) :=
          foldRecords_blocks hnested (by decide) (hsizes nested (by simp)) hinside [] _
        _ = foldRecords levels (messageStep levels (readInner levels readMessage))
              ⟨⟨message.name, message.fields, message.nested, [] ++ message.enums, false⟩, []⟩
              (options ++ []) :=
          foldRecords_blocks henums (by decide) (hsizes enums (by simp)) henum [] _
        _ = .ok ⟨message, []⟩ := foldRecords_options hoptions (hsizes options (by simp)) _

theorem readMessage_of_form {levels : Nat} {message : Message} {bytes : Bytes}
    (hform : MessageForm levels message bytes) (hsize : bytes.length < sizeLimit) :
    readMessage levels bytes = .ok ⟨message, []⟩ := by
  -- The messages inside have one level less, so the induction is on the levels.
  induction levels generalizing message bytes with
  | zero =>
      apply readMessage_of_nested hform hsize
      intro inner _ _ hlevels
      cases hlevels
  | succ levels ih =>
      apply readMessage_of_nested hform hsize
      intro inner _ _ hlevels hinner hcontent
      cases hlevels
      exact ih hinner hcontent

theorem readFile_of_form {levels : Nat} {file : File} {bytes : Bytes}
    (hform : FileForm levels file bytes) (hsize : bytes.length < sizeLimit) :
    readFile levels bytes = .ok ⟨file, []⟩ := by
  cases hform with
  | @intro name package messages enums hname hpackage hmessages henums =>
      have hsizes : forall part, part ∈ [name, package, messages, enums] ->
          part.length < sizeLimit := fun _ => length_lt_of_mem hsize
      have hmessage : forall inner done message content, levels = inner + 1 ->
          MessageForm inner message content -> content.length < sizeLimit ->
          fileStep levels ⟨⟨file.name, file.package, done, []⟩, []⟩ ⟨4, .block content⟩ =
            .ok ⟨⟨file.name, file.package, done ++ [message], []⟩, []⟩ := by
        intro inner done message content hlevels hmessage hcontent
        simp only [fileStep, hlevels, readInner, readMessage_of_form hmessage hcontent]
        rfl
      have henum : forall inner done enum content, levels = inner + 1 ->
          EnumForm inner enum content -> content.length < sizeLimit ->
          fileStep levels ⟨⟨file.name, file.package, file.messages, done⟩, []⟩
              ⟨5, .block content⟩ =
            .ok ⟨⟨file.name, file.package, file.messages, done ++ [enum]⟩, []⟩ := by
        intro inner done enum content hlevels henum hcontent
        simp only [fileStep, hlevels, readInner, readEnum_of_form henum hcontent]
        rfl
      calc readFile levels [name, package, messages, enums].flatten
          = foldRecords levels (fileStep levels) ⟨{}, []⟩
              (name ++ (package ++ (messages ++ (enums ++ [])))) := rfl
        _ = foldRecords levels (fileStep levels) ⟨{ name := file.name }, []⟩
              (package ++ (messages ++ (enums ++ []))) :=
          foldRecords_text hname (by decide) (hsizes name (by simp))
            (fun hdefault => by rw [hdefault])
            (by simp only [fileStep, Decoded.setText_utf8]) _
        _ = foldRecords levels (fileStep levels) ⟨⟨file.name, file.package, [], []⟩, []⟩
              (messages ++ (enums ++ [])) :=
          foldRecords_text hpackage (by decide) (hsizes package (by simp))
            (fun hdefault => by rw [hdefault])
            (by simp only [fileStep, Decoded.setText_utf8]) _
        _ = foldRecords levels (fileStep levels)
              ⟨⟨file.name, file.package, [] ++ file.messages, []⟩, []⟩
              (enums ++ []) :=
          foldRecords_blocks hmessages (by decide) (hsizes messages (by simp)) hmessage [] _
        _ = foldRecords levels (fileStep levels)
              ⟨⟨file.name, file.package, file.messages, [] ++ file.enums⟩, []⟩ [] :=
          foldRecords_blocks henums (by decide) (hsizes enums (by simp)) henum [] _
        _ = .ok ⟨file, []⟩ := foldRecords_nil _

theorem readFileSet_of_form {files : List File} {bytes : Bytes}
    (hform : FileSetForm depthLimit files bytes) (hsize : bytes.length < sizeLimit) :
    readFileSet bytes = .ok ⟨files, []⟩ := by
  have hfile : forall inner done file content, depthLimit = inner + 1 ->
      FileForm inner file content -> content.length < sizeLimit ->
      fileSetStep depthLimit ⟨done, []⟩ ⟨1, .block content⟩ = .ok ⟨done ++ [file], []⟩ := by
    intro inner done file content hlevels hfile hcontent
    simp only [fileSetStep, hlevels, readInner, readFile_of_form hfile hcontent]
    rfl
  calc readFileSet bytes
      = foldRecords depthLimit (fileSetStep depthLimit) ⟨[], []⟩ (bytes ++ []) := by
        rw [List.append_nil]
        rfl
    _ = foldRecords depthLimit (fileSetStep depthLimit) ⟨[] ++ files, []⟩ [] :=
      foldRecords_blocks hform (by decide) hsize hfile [] []
    _ = .ok ⟨files, []⟩ := foldRecords_nil _

end Wire
end ProtoModules
