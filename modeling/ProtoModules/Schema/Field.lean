import ProtoModules.Text.Basic

/-!
# Fields

A field has a name, a number, a label that says how often it may occur, and a
type.  Message and enum fields name their type; the other types are scalar, but
for groups, which have no counterpart in a module.
-/

namespace ProtoModules
namespace Schema

inductive FieldType where
  | double
  | float
  | int64
  | uint64
  | int32
  | fixed64
  | fixed32
  | bool
  | string
  | group
  | message
  | bytes
  | uint32
  | enumeration
  | sfixed32
  | sfixed64
  | sint32
  | sint64
deriving DecidableEq, Repr

namespace FieldType

def all : List FieldType :=
  [double, float, int64, uint64, int32, fixed64, fixed32, bool, string, group,
    message, bytes, uint32, enumeration, sfixed32, sfixed64, sint32, sint64]

def number : FieldType -> Nat
  | double => 1
  | float => 2
  | int64 => 3
  | uint64 => 4
  | int32 => 5
  | fixed64 => 6
  | fixed32 => 7
  | bool => 8
  | string => 9
  | group => 10
  | message => 11
  | bytes => 12
  | uint32 => 13
  | enumeration => 14
  | sfixed32 => 15
  | sfixed64 => 16
  | sint32 => 17
  | sint64 => 18

def ofNumber? (n : Nat) : Option FieldType :=
  all.find? fun type => type.number = n

def keyword : FieldType -> String
  | double => "TYPE_DOUBLE"
  | float => "TYPE_FLOAT"
  | int64 => "TYPE_INT64"
  | uint64 => "TYPE_UINT64"
  | int32 => "TYPE_INT32"
  | fixed64 => "TYPE_FIXED64"
  | fixed32 => "TYPE_FIXED32"
  | bool => "TYPE_BOOL"
  | string => "TYPE_STRING"
  | group => "TYPE_GROUP"
  | message => "TYPE_MESSAGE"
  | bytes => "TYPE_BYTES"
  | uint32 => "TYPE_UINT32"
  | enumeration => "TYPE_ENUM"
  | sfixed32 => "TYPE_SFIXED32"
  | sfixed64 => "TYPE_SFIXED64"
  | sint32 => "TYPE_SINT32"
  | sint64 => "TYPE_SINT64"

def ofKeyword? (word : String) : Option FieldType :=
  all.find? fun type => type.keyword = word

/-- Whether values of the type belong to a declared message or enum. -/
def isDeclared (type : FieldType) : Bool :=
  type = message || type = enumeration

@[simp] theorem ofNumber?_number (type : FieldType) :
    ofNumber? type.number = some type := by
  cases type <;> rfl

end FieldType

inductive Label where
  | optional
  | required
  | repeated
deriving DecidableEq, Repr

namespace Label

def all : List Label :=
  [optional, required, repeated]

def number : Label -> Nat
  | optional => 1
  | required => 2
  | repeated => 3

def ofNumber? (n : Nat) : Option Label :=
  all.find? fun label => label.number = n

def keyword : Label -> String
  | optional => "LABEL_OPTIONAL"
  | required => "LABEL_REQUIRED"
  | repeated => "LABEL_REPEATED"

def ofKeyword? (word : String) : Option Label :=
  all.find? fun label => label.keyword = word

@[simp] theorem ofNumber?_number (label : Label) :
    ofNumber? label.number = some label := by
  cases label <;> rfl

end Label

structure Field where
  name : Text := []
  number : Int32 := 0
  label : Label := .optional
  type : FieldType := .double
  typeName : Text := []
deriving DecidableEq, Repr

namespace Field

def isRepeated (field : Field) : Bool :=
  field.label = .repeated

end Field
end Schema
end ProtoModules
