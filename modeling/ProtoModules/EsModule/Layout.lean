import ProtoModules.EsModule.Basic

/-!
# The layout of a module

A module is written line by line.  A blank line stands in front of the imports,
in front of every declaration, and between the parts of a class.
-/

namespace ProtoModules

open Schema

def indented (level : Nat) (line : Text) : Text :=
  List.replicate (4 * level) ' ' ++ line

def spaced (lines : List Text) : List Text :=
  if lines.isEmpty then [] else [] :: lines

def exportMark (exported : Bool) : Text :=
  if exported then "export ".toList else []

namespace Import

def line (statement : Import) : Text :=
  "import \x7b ".toList ++ Text.joined ", " (statement.names.map ImportName.clause) ++
    " \x7d from \"".toList ++ statement.path ++ "\";".toList

end Import

namespace EnumTable

def valueLine (value : EnumValue) : Text :=
  indented 1 (value.name ++ ": ".toList ++ Text.ofInt value.number.toInt ++ ",".toList)

def lines (table : EnumTable) : List Text :=
  ["/** ".toList ++ table.fullName ++ " */".toList,
    exportMark table.exported ++ "const ".toList ++ table.identifier ++
      " = Object.freeze(\x7b".toList] ++
  table.values.map valueLine ++
  ["\x7d);".toList]

end EnumTable

namespace Member

def classPart (member : Member) : Text :=
  match member.className with
  | none | some [] => []
  | some name => ", clrType: ".toList ++ name

def descriptorLine (member : Member) : Text :=
  indented 4 ("\x7b name: \"".toList ++ member.propertyName ++
    "\", jsonName: \"".toList ++ member.name ++
    "\", number: ".toList ++ Text.ofInt member.number.toInt ++
    ", type: \"".toList ++ member.type.keyword.toList ++
    "\", label: \"".toList ++ member.label.keyword.toList ++ "\"".toList ++
    member.classPart ++
    (if member.isMap then ", map: true".toList else []) ++ " \x7d,".toList)

def slotLine (member : Member) : Text :=
  indented 1 ("#".toList ++ member.propertyName ++ ";".toList)

def accessorLines (member : Member) : List Text :=
  let slot := "this.#".toList ++ member.propertyName
  [[],
    indented 1 ("/** @type ".toList ++ member.docType ++ " */".toList),
    indented 1 ("get ".toList ++ member.propertyName ++ "() \x7b".toList),
    indented 2 ("return ".toList ++ slot ++ ";".toList),
    indented 1 "\x7d".toList,
    [],
    indented 1 ("/** @param ".toList ++ member.docType ++ " value */".toList),
    indented 1 ("set ".toList ++ member.propertyName ++ "(value) \x7b".toList),
    indented 2 (slot ++ " = value;".toList),
    indented 1 "\x7d".toList,
    [],
    indented 1 ("/** @returns ".toList ++ member.docType ++ " */".toList),
    indented 1 ("get".toList ++ member.methodSuffix ++ "() \x7b".toList),
    indented 2 ("return ".toList ++ slot ++ ";".toList),
    indented 1 "\x7d".toList,
    [],
    indented 1 "/**".toList,
    indented 1 (" * @param ".toList ++ member.docType ++ " value".toList),
    indented 1 " * @returns \x7bthis\x7d".toList,
    indented 1 " */".toList,
    indented 1 ("set".toList ++ member.methodSuffix ++ "(value) \x7b".toList),
    indented 2 (slot ++ " = value;".toList),
    indented 2 "return this;".toList,
    indented 1 "\x7d".toList]

def jsonLine (member : Member) : Text :=
  indented 3 (member.name ++ ": this.".toList ++ member.propertyName ++ ",".toList)

end Member

namespace Alias

def line (entry : Alias) : Text :=
  indented 1 ("static ".toList ++ entry.name ++ " = ".toList ++ entry.target ++ ";".toList)

end Alias

namespace MessageClass

def headLines (cls : MessageClass) : List Text :=
  ["/** ".toList ++ cls.fullName ++ " */".toList,
    exportMark cls.exported ++ "class ".toList ++ cls.identifier ++ " \x7b".toList,
    indented 1 "static get __descriptor() \x7b".toList,
    indented 2 "return \x7b".toList,
    indented 3 ("name: \"".toList ++ cls.name ++ "\",".toList),
    indented 3 ("fullName: \"".toList ++ cls.fullName ++ "\",".toList),
    indented 3 "fields: [".toList] ++
  cls.members.map Member.descriptorLine ++
  [indented 3 "],".toList,
    indented 2 "\x7d;".toList,
    indented 1 "\x7d".toList]

def tailLines (cls : MessageClass) : List Text :=
  [[],
    indented 1 "toJSON() \x7b".toList,
    indented 2 "return \x7b".toList] ++
  cls.members.map Member.jsonLine ++
  [indented 2 "\x7d;".toList,
    indented 1 "\x7d".toList,
    "\x7d".toList]

def lines (cls : MessageClass) : List Text :=
  cls.headLines ++
  spaced (cls.aliases.map Alias.line) ++
  spaced (cls.members.map Member.slotLine) ++
  cls.members.flatMap Member.accessorLines ++
  cls.tailLines

end MessageClass

def Declaration.lines : Declaration -> List Text
  | enumeration table => table.lines
  | message cls => cls.lines

namespace EsModule

def headerLines (source : Text) : List Text :=
  ["// Code generated by protoc-gen-mjs. DO NOT EDIT.".toList,
    "// source: ".toList ++ source]

def lines (esModule : EsModule) : List Text :=
  headerLines esModule.source ++
  spaced (esModule.imports.map Import.line) ++
  esModule.declarations.flatMap fun declaration => [] :: declaration.lines

def text (esModule : EsModule) : Text :=
  esModule.lines.flatMap fun line => line ++ ['\n']

end EsModule
end ProtoModules
