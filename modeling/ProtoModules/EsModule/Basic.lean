import ProtoModules.Imports

/-!
# Generated modules

A generated module names its schema file, imports what its types need, and
declares one top-level object for every type of the file: a frozen table of
constants for an enum and a class for a message.
-/

namespace ProtoModules

open Schema

structure Member where
  name : Text
  propertyName : Text
  methodSuffix : Text
  number : Int32
  type : FieldType
  label : Label
  typeText : Text
  className : Option Text
  isMap : Bool
deriving DecidableEq, Repr

def Member.docType (member : Member) : Text :=
  "\x7b".toList ++ member.typeText ++ "\x7d".toList

/-- A static property of a class that holds a nested type. -/
structure Alias where
  name : Text
  target : Text
deriving DecidableEq, Repr

structure EnumTable where
  identifier : Text
  name : Text
  fullName : Text
  values : List EnumValue
  exported : Bool
deriving DecidableEq, Repr

structure MessageClass where
  identifier : Text
  name : Text
  fullName : Text
  members : List Member
  aliases : List Alias
  exported : Bool
deriving DecidableEq, Repr

inductive Declaration where
  | enumeration (table : EnumTable)
  | message (cls : MessageClass)
deriving DecidableEq, Repr

def Declaration.identifier : Declaration -> Text
  | enumeration table => table.identifier
  | message cls => cls.identifier

structure Import where
  fileName : Text
  path : Text
  names : List ImportName
deriving DecidableEq, Repr

structure EsModule where
  source : Text
  imports : List Import
  declarations : List Declaration
deriving DecidableEq, Repr

/-- Two declarations of a file that need the same identifier. -/
structure Collision where
  first : Text
  second : Text
  fileName : Text
  identifier : Text
deriving DecidableEq, Repr

inductive BuildError where
  | emptyModuleName
  | collision (collision : Collision)
deriving DecidableEq, Repr

def BuildError.message : BuildError -> Text
  | emptyModuleName => "no path specified".toList
  | collision ⟨first, second, fileName, identifier⟩ =>
      "'".toList ++ TypeName.shown first ++ "' and '".toList ++ TypeName.shown second ++
        "' in ".toList ++ fileName ++ " both flatten to '".toList ++ identifier ++ "'".toList

end ProtoModules
