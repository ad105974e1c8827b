import ProtoModules.Path.Extension
import ProtoModules.Scope
import ProtoModules.Text.WordChar

/-!
# Imports

The module of a file imports, from the modules of other files, the types that
its fields need.  The imported identifiers are listed by file name and then by
identifier, each once.  An identifier that is taken already, by a declaration of
the file or by an earlier import, gets a local name made from its file's name.
-/

namespace ProtoModules

open Schema

structure ImportKey where
  fileName : Text
  identifier : Text
deriving DecidableEq, Repr

namespace ImportKey

def before (left right : ImportKey) : Bool :=
  left.fileName < right.fileName ||
    (left.fileName = right.fileName && left.identifier < right.identifier)

def insert (key : ImportKey) : List ImportKey -> List ImportKey
  | [] => [key]
  | first :: rest =>
      if key.before first then key :: first :: rest
      else if key = first then first :: rest
      else first :: insert key rest

def ascending (keys : List ImportKey) : List ImportKey :=
  keys.foldr insert []

def ofEntry (entry : Entry) : ImportKey where
  fileName := entry.fileName
  identifier := entry.identifier

end ImportKey

structure ImportGroup where
  fileName : Text
  names : List ImportName
deriving DecidableEq, Repr

namespace ImportName

def clause (name : ImportName) : Text :=
  if name.localName = name.identifier then name.identifier
  else name.identifier ++ " as ".toList ++ name.localName

end ImportName

namespace Imports

mutual

/-- The messages of a subtree from the root down, without map entries. -/
def scanned : Message -> List Message
  | message@⟨_, _, nested, _, isMapEntry⟩ =>
      if isMapEntry then [] else message :: scannedAll nested

def scannedAll : List Message -> List Message
  | [] => []
  | message :: rest => scanned message ++ scannedAll rest

end

def fileAlias (fileName : Text) : Text :=
  (Path.stem fileName).map fun c => if Text.isWordChar c then c else '_'

def keys (registry : Registry) (file : File) : List ImportKey :=
  let scope : Scope := { registry, file }
  let fields := (scannedAll file.messages).flatMap Message.fields
  let entries := (fields.flatMap scope.needed).filterMap (registry.foreign? file.name)
  ImportKey.ascending (entries.map ImportKey.ofEntry)

def declaredNames (file : File) : List Text :=
  file.messages.map Message.name ++ file.enums.map Enum.name

/-- Choose the local names of some keys in turn, given the names taken so far. -/
def choose (taken : List Text) : List ImportKey -> List ImportName
  | [] => []
  | ⟨fileName, identifier⟩ :: rest =>
      let localName :=
        if taken.contains identifier then identifier ++ '$' :: fileAlias fileName
        else identifier
      ⟨fileName, identifier, localName⟩ :: choose (localName :: taken) rest

def names (registry : Registry) (file : File) : List ImportName :=
  choose (declaredNames file) (keys registry file)

def grouped : List ImportName -> List ImportGroup
  | [] => []
  | name :: rest =>
      match grouped rest with
      | [] => [⟨name.fileName, [name]⟩]
      | group :: more =>
          if name.fileName = group.fileName then
            ⟨group.fileName, name :: group.names⟩ :: more
          else ⟨name.fileName, [name]⟩ :: group :: more

end Imports
end ProtoModules
