import ProtoModules.Path.Relative
import ProtoModules.Text.Utf8

/-!
# The schema compiler

Schema sources are turned into a set of files by an external compiler.  This
module says how the compiler is called, what it may reply, and which files of the
resulting set belong to the sources it was called with.
-/

namespace ProtoModules
namespace Compiler

inductive Reply where
  | missing
  | failed (messages : Bytes)
  | produced (content : Bytes)
deriving DecidableEq, Repr

/-- The directories to search: those given, or else the ones of the sources. -/
def searchDirs (workDir : Path.Place) (sources includeDirs : List Text) : List Text :=
  if includeDirs.isEmpty then sources.map (Path.absoluteDirectory workDir)
  else includeDirs

def searchArgs (workDir : Path.Place) (sources includeDirs : List Text) : List Text :=
  let dirs := (searchDirs workDir sources includeDirs).filter fun dir => !dir.isEmpty
  dirs.eraseDups.flatMap fun dir => ["-I".toList, dir]

def command (workDir : Path.Place) (setPath : Text) (sources includeDirs : List Text) :
    List Text :=
  ["protoc".toList, "--include_imports".toList, "--descriptor_set_out=".toList ++ setPath] ++
    searchArgs workDir sources includeDirs ++ sources

/-- Whether a file of the set belongs to a source: its name ends the source's path. -/
def isSourceOf (source fileName : Text) : Bool :=
  let path := Path.tidy source
  path = fileName || ('/' :: fileName).isSuffixOf path

def namesOf (sources fileNames : List Text) : List Text :=
  fileNames.filter fun fileName => sources.any (isSourceOf · fileName)

end Compiler
end ProtoModules
