import ProtoModules.Schema.TypeName

/-!
# The registry of declared types

The registry knows every type that a list of schema files declares, under its
full name.  Files come in order; within a file the messages come first, each
followed by what it declares inside, and then the enums.  A full name that is
declared twice keeps its first declaration.
-/

namespace ProtoModules

open Schema

inductive Declared where
  | message (message : Message)
  | enumeration (enum : Enum)

structure Entry where
  fullName : Text
  fileName : Text
  name : Text
  path : Text
  declared : Declared

namespace Entry

/-- The name under which the module of the owning file exports the type. -/
def identifier (entry : Entry) : Text :=
  Text.beforeFirst '.' entry.path

def memberPath (entry : Entry) : Text :=
  entry.path.drop entry.identifier.length

def message? (entry : Entry) : Option Message :=
  match entry.declared with
  | .message message => some message
  | .enumeration _ => none

def declare (file : File) (parent : Option Entry) (name : Text) (declared : Declared) :
    Entry where
  fullName :=
    TypeName.full file.package ((parent.map Entry.fullName).getD []) name
  fileName := file.name
  name := name
  path :=
    match parent with
    | some outer => outer.path ++ '.' :: name
    | none => name
  declared := declared

end Entry

/-- The declared types in the order of their first declarations. -/
structure Registry where
  entries : List Entry := []

namespace Registry

def find? (registry : Registry) (fullName : Text) : Option Entry :=
  registry.entries.find? fun entry => entry.fullName = fullName

def insert (registry : Registry) (entry : Entry) : Registry :=
  match registry.find? entry.fullName with
  | some _ => registry
  | none => { entries := registry.entries ++ [entry] }

theorem find?_insert_self (registry : Registry) (entry : Entry) :
    (registry.insert entry).find? entry.fullName =
      some ((registry.find? entry.fullName).getD entry) := by
  unfold insert
  cases h : registry.find? entry.fullName with
  | some known => simp [h]
  | none =>
      simp only [find?] at h
      simp [find?, List.find?_append, h]

theorem find?_insert_of_ne {registry : Registry} {entry : Entry} {fullName : Text}
    (hne : entry.fullName ≠ fullName) :
    (registry.insert entry).find? fullName = registry.find? fullName := by
  unfold insert
  cases registry.find? entry.fullName with
  | some known => rfl
  | none => simp [find?, List.find?_append, hne]

def addEnum (file : File) (parent : Option Entry) (registry : Registry) (enum : Enum) :
    Registry :=
  registry.insert (Entry.declare file parent enum.name (.enumeration enum))

mutual

/-- Add a message of a file, the messages inside it, and then its enums. -/
def addMessage (file : File) (parent : Option Entry) (registry : Registry) :
    Message -> Registry
  | message@⟨name, _, nested, enums, _⟩ =>
      let entry := Entry.declare file parent name (.message message)
      let inside := addMessages file (some entry) (registry.insert entry) nested
      enums.foldl (addEnum file (some entry)) inside

def addMessages (file : File) (parent : Option Entry) (registry : Registry) :
    List Message -> Registry
  | [] => registry
  | message :: rest =>
      addMessages file parent (addMessage file parent registry message) rest

end

def addFile (registry : Registry) (file : File) : Registry :=
  file.enums.foldl (addEnum file none) (addMessages file none registry file.messages)

def ofFiles (files : List File) : Registry :=
  files.foldl addFile {}

def lookup (registry : Registry) (typeName : Text) : Option Entry :=
  registry.find? (TypeName.absolute typeName)

/--
The entry of a type that a file has to import: there is none when the file
declares the type itself or nobody does.
-/
def foreign? (registry : Registry) (fileName typeName : Text) : Option Entry :=
  (registry.lookup typeName).filter fun entry => entry.fileName ≠ fileName

end Registry
end ProtoModules
