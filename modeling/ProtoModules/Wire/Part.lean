import ProtoModules.Wire.Reader

/-!
# Parts of a description

A description of schema files is made of messages of several kinds.  Most of what
it says has no bearing on the generated modules: services, options, positions in
the source.  Such parts are passed over, but they are read as what they are, so
they have to be well formed and may not nest too deeply.
-/

namespace ProtoModules
namespace Wire

/--
The kinds of messages in a description.  A plain part has fields that hold numbers
and texts only.
-/
inductive Part where
  | request
  | fileSet
  | file
  | message
  | field
  | enum
  | enumValue
  | service
  | method
  | oneof
  | extensionRange
  | sourceInfo
  | sourceLocation
  | fileOptions
  | messageOptions
  | fieldOptions
  | oneofOptions
  | enumOptions
  | enumValueOptions
  | serviceOptions
  | methodOptions
  | extensionRangeOptions
  | freeOption
  | plain
deriving DecidableEq, Repr

inductive Form where
  | part (part : Part)
  | numbers
deriving DecidableEq, Repr

namespace Part

def forms : Part -> List (Nat × Form)
  | request => [(3, .part plain), (15, .part file), (17, .part file)]
  | fileSet => [(1, .part file)]
  | file => [
      (4, .part message),
      (5, .part enum),
      (6, .part service),
      (7, .part field),
      (8, .part fileOptions),
      (9, .part sourceInfo),
      (10, .numbers),
      (11, .numbers)]
  | message => [
      (2, .part field),
      (3, .part message),
      (4, .part enum),
      (5, .part extensionRange),
      (6, .part field),
      (7, .part messageOptions),
      (8, .part oneof),
      (9, .part plain)]
  | field => [(8, .part fieldOptions)]
  | enum => [(2, .part enumValue), (3, .part enumOptions), (4, .part plain)]
  | enumValue => [(3, .part enumValueOptions)]
  | service => [(2, .part method), (3, .part serviceOptions)]
  | method => [(4, .part methodOptions)]
  | oneof => [(2, .part oneofOptions)]
  | extensionRange => [(3, .part extensionRangeOptions)]
  | sourceInfo => [(1, .part sourceLocation)]
  | sourceLocation => [(1, .numbers), (2, .numbers)]
  | fileOptions => [(50, .part plain), (999, .part freeOption)]
  | messageOptions => [(12, .part plain), (999, .part freeOption)]
  | fieldOptions => [
      (19, .numbers),
      (20, .part plain),
      (21, .part plain),
      (22, .part plain),
      (999, .part freeOption)]
  | oneofOptions => [(1, .part plain), (999, .part freeOption)]
  | enumOptions => [(7, .part plain), (999, .part freeOption)]
  | enumValueOptions => [(2, .part plain), (4, .part plain), (999, .part freeOption)]
  | serviceOptions => [(34, .part plain), (999, .part freeOption)]
  | methodOptions => [(35, .part plain), (999, .part freeOption)]
  | extensionRangeOptions => [(2, .part plain), (50, .part plain), (999, .part freeOption)]
  | freeOption => [(2, .part plain)]
  | plain => []

end Part

def areNumbers (bytes : Bytes) : Bool :=
  if bytes.isEmpty then true
  else
    match _hread : Varint.readValue bytes with
    | none => false
    | some (_, rest) => areNumbers rest
  termination_by bytes.length
  decreasing_by exact Varint.length_lt_of_readValue _hread

def checkRecord (checkInner : Part -> Bytes -> Except DecodeError Unit) (part : Part)
    (record : Record) : Except DecodeError Unit :=
  match record.payload with
  | .block content =>
      match part.forms.lookup record.number with
      | some (.part inner) => checkInner inner content
      | some .numbers => if areNumbers content then .ok () else .error .corrupt
      | none => .ok ()
  | _ => .ok ()

def checkPart : Nat -> Part -> Bytes -> Except DecodeError Unit
  | 0, part, bytes =>
      foldRecords 0 (fun _ => checkRecord (fun _ _ => .error .tooDeep) part) () bytes
  | levels + 1, part, bytes =>
      foldRecords (levels + 1) (fun _ => checkRecord (checkPart levels) part) () bytes

/-- Pass over a record of a part, of which nothing is kept. -/
def passOver {α : Type} (levels : Nat) (part : Part) (record : Record) (kept : α) :
    Except DecodeError α := do
  checkRecord (fun inner => readInner levels fun levels => checkPart levels inner) part record
  return kept

end Wire
end ProtoModules
