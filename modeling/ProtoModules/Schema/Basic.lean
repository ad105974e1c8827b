import ProtoModules.Schema.Field

/-!
# Schema files

A schema file declares messages and enums in a package.  Messages nest: each may
declare further messages and enums of its own.  A map field is written as a
repeated field of a nested message that is marked as a map entry.
-/

namespace ProtoModules
namespace Schema

structure EnumValue where
  name : Text := []
  number : Int32 := 0
deriving DecidableEq, Repr

structure Enum where
  name : Text := []
  values : List EnumValue := []
deriving DecidableEq, Repr

structure Message where
  name : Text := []
  fields : List Field := []
  nested : List Message := []
  enums : List Enum := []
  isMapEntry : Bool := false

structure File where
  name : Text := []
  package : Text := []
  messages : List Message := []
  enums : List Enum := []

end Schema
end ProtoModules
