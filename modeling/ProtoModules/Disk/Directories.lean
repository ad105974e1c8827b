import ProtoModules.Disk.Basic
import ProtoModules.Path.Parent

/-!
# Making directories

A directory is made together with the missing directories above it.  A directory
that is there already is left as it is.  A file can be written together with the
missing directories on its way.
-/

namespace ProtoModules
namespace Disk

def ensureDirectory (disk : Disk) (workDir : Path.Place) (path : Text) :
    Disk × Option Fault :=
  match disk.makeDirectory workDir path with
  | .ok disk => (disk, none)
  | .error fault =>
      if disk.isDirectory workDir path then (disk, none) else (disk, some fault)

/--
Make a directory and the missing ones above it.  The directories that were made
before a fault stay.  Where a file stands above, the attempt goes on and fails at
the directory below it.
-/
def makeDirectories (disk : Disk) (workDir : Path.Place) (path : Text) :
    Disk × Option Fault :=
  if _hname : Path.name (Path.trimmed path) ≠ [] then
    let parent := Path.parent path
    if parent ≠ [] ∧ !disk.contains workDir parent then
      let (disk, fault) := makeDirectories disk workDir parent
      if fault.any fun fault => fault.kind ≠ .alreadyExists then (disk, fault)
      else if Path.name (Path.trimmed path) = Path.here then (disk, none)
      else disk.ensureDirectory workDir path
    else disk.ensureDirectory workDir path
  else disk.ensureDirectory workDir path
  termination_by path.length
  decreasing_by exact Path.length_parent_lt _hname

def writeDeep (disk : Disk) (workDir : Path.Place) (path : Text) (content : Bytes) :
    Disk × Option Fault :=
  match disk.makeDirectories workDir (Path.directory path) with
  | (disk, some fault) => (disk, some fault)
  | (disk, none) =>
      match disk.writeFile workDir (Path.tidy path) content with
      | .ok disk => (disk, none)
      | .error fault => (disk, some fault)

end Disk
end ProtoModules
