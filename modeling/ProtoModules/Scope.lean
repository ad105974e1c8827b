import ProtoModules.Registry

/-!
# Types of fields

A scope is what the fields of one file are read in: the registry, the file, and
the names under which the file's module imports the types of other files.  In a
scope every field has a type expression, may have a class that its values are
read into, and needs the types it mentions.
-/

namespace ProtoModules

open Schema

structure ImportName where
  fileName : Text
  identifier : Text
  localName : Text
deriving DecidableEq, Repr

structure Scope where
  registry : Registry
  file : File
  names : List ImportName := []

namespace Scope

def unknownType : Text := "any".toList

/-- What the name of a map entry has in it when the entry itself is missing. -/
def mapEntryMark : Text := "Entry".toList

def scalarType? : FieldType -> Option Text
  | .double | .float | .int64 | .uint64 | .int32 | .fixed64 | .fixed32 | .uint32
  | .sfixed32 | .sfixed64 | .sint32 | .sint64 => some "number".toList
  | .bool => some "boolean".toList
  | .string => some "string".toList
  | .bytes => some "Uint8Array".toList
  | .group | .message | .enumeration => none

def localName (scope : Scope) (fileName identifier : Text) : Text :=
  match scope.names.find? fun name =>
      name.fileName = fileName ∧ name.identifier = identifier with
  | some name => name.localName
  | none => identifier

/--
The expression that names a declared type.  A nested type of another file is
reached through the class that its outermost message is imported as.
-/
def reference (scope : Scope) (typeName : Text) : Text :=
  match scope.registry.lookup typeName with
  | none => unknownType
  | some entry =>
      if entry.fileName = scope.file.name then
        TypeName.localIdentifier scope.file.package entry.fullName
      else scope.localName entry.fileName entry.identifier ++ entry.memberPath

def valueType (scope : Scope) (field : Field) : Text :=
  match scalarType? field.type with
  | some type => type
  | none =>
      if field.type.isDeclared then scope.reference field.typeName else unknownType

/--
Whether a field is a map.  The registry decides by the mark on the message that
the field names; for a type that is no known message, the name decides.
-/
def isMap (scope : Scope) (field : Field) : Bool :=
  field.type = .message && field.isRepeated &&
    match (scope.registry.lookup field.typeName).bind Entry.message? with
    | some message => message.isMapEntry
    | none => Text.includes mapEntryMark field.typeName

def fieldNamed? (message : Message) (name : String) : Option Field :=
  message.fields.reverse.find? fun field => field.name = name.toList

def entryFields? (scope : Scope) (field : Field) : Option (Field × Field) := do
  let entry <- scope.registry.lookup field.typeName
  let message <- entry.message?
  let key <- fieldNamed? message "key"
  let value <- fieldNamed? message "value"
  return (key, value)

def keyValueTypes (scope : Scope) (field : Field) : Text × Text :=
  match scope.entryFields? field with
  | some (key, value) => (scope.valueType key, scope.valueType value)
  | none => ("string".toList, unknownType)

def typeOf (scope : Scope) (field : Field) : Text :=
  if field.isRepeated then
    if scope.isMap field then
      let (key, value) := scope.keyValueTypes field
      "Object<".toList ++ key ++ ", ".toList ++ value ++ ">".toList
    else scope.valueType field ++ "[]".toList
  else scope.valueType field

def classOf? (scope : Scope) (field : Field) : Option Text :=
  if field.type ≠ .message ∨ scope.isMap field then none
  else
    let name := scope.reference field.typeName
    if name = unknownType then none else some name

def needed (scope : Scope) (field : Field) : List Text :=
  let named (field : Field) := if field.type.isDeclared then [field.typeName] else []
  if scope.isMap field then
    match scope.entryFields? field with
    | some (_, value) => named value
    | none => []
  else named field

end Scope
end ProtoModules
