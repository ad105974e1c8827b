import ProtoModules.Text.Quoted

/-!
# Flags

The flags of the command line, how they are spelled, how many values they take,
and what is said when they are misused.
-/

namespace ProtoModules
namespace CommandLine

inductive Flag where
  | help
  | descriptorSet
  | proto
  | includeDir
  | out
  | file
  | extension
deriving DecidableEq, Repr

inductive Arity where
  | none
  | one
  | some
deriving DecidableEq, Repr

namespace Flag

def arity : Flag -> Arity
  | help => .none
  | proto => .some
  | descriptorSet | includeDir | out | file | extension => .one

def spellings : List (Text × Flag) := [
  ("-h".toList, help),
  ("--help".toList, help),
  ("--descriptor-set".toList, descriptorSet),
  ("--proto".toList, proto),
  ("-I".toList, includeDir),
  ("--proto-path".toList, includeDir),
  ("--out".toList, out),
  ("--file".toList, file),
  ("--extension".toList, extension)]

def ofSpelling? (spelling : Text) : Option Flag :=
  spellings.lookup spelling

def title : Flag -> String
  | help => "-h/--help"
  | descriptorSet => "--descriptor-set"
  | proto => "--proto"
  | includeDir => "-I/--proto-path"
  | out => "--out"
  | file => "--file"
  | extension => "--extension"

end Flag

inductive Misuse where
  | ambiguous (argument : Text) (spellings : List Text)
  | valueExpected (flag : Flag)
  | valuesExpected (flag : Flag)
  | valueIgnored (flag : Flag) (value : Text)
  | conflict (flag other : Flag)
  | outMissing
  | sourceMissing
  | unrecognized (arguments : List Text)
deriving DecidableEq, Repr

namespace Misuse

def about (flag : Flag) (complaint : Text) : Text :=
  "argument ".toList ++ flag.title.toList ++ ": ".toList ++ complaint

def message : Misuse -> Text
  | ambiguous argument spellings =>
      "ambiguous option: ".toList ++ argument ++ " could match ".toList ++
        Text.joined ", " spellings
  | valueExpected flag => about flag "expected one argument".toList
  | valuesExpected flag => about flag "expected at least one argument".toList
  | valueIgnored flag value =>
      about flag ("ignored explicit argument ".toList ++ Text.quoted value)
  | conflict flag other =>
      about flag ("not allowed with argument ".toList ++ other.title.toList)
  | outMissing => "the following arguments are required: --out".toList
  | sourceMissing => "one of the arguments --descriptor-set --proto is required".toList
  | unrecognized arguments =>
      "unrecognized arguments: ".toList ++ Text.joined " " arguments

end Misuse

def usage : Text :=
  ("usage: protoc-gen-mjs [-h]\n" ++
    "                      (--descriptor-set DESCRIPTOR_SET | --proto PROTO [PROTO ...])\n" ++
    "                      [-I INCLUDE_DIRS] --out OUT [--file FILES]\n" ++
    "                      [--extension EXTENSION]\n").toList

def helpText : Text :=
  usage ++
  ("\n" ++
    "Generate ES module classes with JSON projection from .proto files. Run without\n" ++
    "arguments as a protoc plugin (--plugin=protoc-gen-mjs --mjs_out=DIR).\n" ++
    "\n" ++
    "options:\n" ++
    "  -h, --help            show this help message and exit\n" ++
    "  --descriptor-set DESCRIPTOR_SET\n" ++
    "                        Serialized FileDescriptorSet (protoc --include_imports\n" ++
    "                        --descriptor_set_out)\n" ++
    "  --proto PROTO [PROTO ...]\n" ++
    "                        .proto file(s) to compile with protoc\n" ++
    "  -I INCLUDE_DIRS, --proto-path INCLUDE_DIRS\n" ++
    "                        Import search directory passed to protoc (repeatable)\n" ++
    "  --out OUT             Output directory for generated modules\n" ++
    "  --file FILES          Descriptor file name to generate (repeatable; defaults\n" ++
    "                        to the inputs)\n" ++
    "  --extension EXTENSION\n" ++
    "                        Output module extension (default: .mjs)\n").toList

end CommandLine
end ProtoModules
