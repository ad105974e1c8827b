import ProtoModules.Path.Relative
import ProtoModules.Text.Quoted
import ProtoModules.Text.Utf8

/-!
# The disk

A disk says what stands at each place: a directory, a file with its bytes, or
nothing.  The root is always a directory.  A path is followed component by
component, and every component but the last has to lead from a directory.  Neither
a component nor a path as a whole may be too long, and a path with a null character
is refused before it is followed.
-/

namespace ProtoModules

inductive Node where
  | directory
  | file (content : Bytes)
deriving DecidableEq, Repr

structure Disk where
  nodes : List (Path.Place × Node) := []

inductive FaultKind where
  | missing
  | alreadyExists
  | notDirectory
  | isDirectory
  | nameTooLong
  | nullByte
deriving DecidableEq, Repr

/-- The number and the name of a fault.  The system never sees a path with a null character. -/
def FaultKind.errno? : FaultKind -> Option (Nat × String)
  | missing => some (2, "No such file or directory")
  | alreadyExists => some (17, "File exists")
  | notDirectory => some (20, "Not a directory")
  | isDirectory => some (21, "Is a directory")
  | nameTooLong => some (36, "File name too long")
  | nullByte => none

structure Fault where
  kind : FaultKind
  path : Text
deriving DecidableEq, Repr

def Fault.message (fault : Fault) : Text :=
  match fault.kind.errno? with
  | some (number, name) =>
      "[Errno ".toList ++ Text.ofInt number ++ "] ".toList ++ name.toList ++ ": ".toList ++
        Text.quoted fault.path
  | none => "embedded null byte".toList

namespace Disk

def node? (disk : Disk) (place : Path.Place) : Option Node :=
  if place = [] then some .directory else disk.nodes.lookup place

def put (disk : Disk) (place : Path.Place) (node : Node) : Disk where
  nodes := (place, node) :: disk.nodes.filter fun entry => entry.1 ≠ place

theorem node?_put_self {disk : Disk} {place : Path.Place} {node : Node} (h : place ≠ []) :
    (disk.put place node).node? place = some node := by
  simp [node?, put, h]

theorem node?_put_of_ne {disk : Disk} {place other : Path.Place} {node : Node}
    (h : other ≠ place) : (disk.put place node).node? other = disk.node? other := by
  have hskip : forall nodes : List (Path.Place × Node),
      (nodes.filter fun entry => entry.1 ≠ place).lookup other = nodes.lookup other := by
    intro nodes
    induction nodes with
    | nil => rfl
    | cons entry rest ih =>
        obtain ⟨key, found⟩ := entry
        by_cases hkey : key = place
        · have hother : (other == key) = false := by simp [hkey, h]
          rw [List.filter_cons_of_neg (by simp [hkey]), List.lookup_cons, hother, ih]
        · rw [List.filter_cons_of_pos (by simp [hkey]), List.lookup_cons, List.lookup_cons, ih]
  have hhead : (other == place) = false := by simp [h]
  simp only [node?, put, List.lookup_cons, hhead, hskip]

def nameLimit : Nat := 255

def pathLimit : Nat := 4095

def follow (disk : Disk) (place : Path.Place) (component : Text) :
    Except FaultKind Path.Place :=
  match disk.node? place with
  | none => .error .missing
  | some (.file _) => .error .notDirectory
  | some .directory =>
      if component.utf8.length <= nameLimit then .ok (Path.step place component)
      else .error .nameTooLong

/--
The place that some components of a path lead to.  The path as a whole tells where
to start, and an empty path leads nowhere.
-/
def locate (disk : Disk) (workDir : Path.Place) (path : Text) (components : List Text) :
    Except FaultKind Path.Place :=
  if Path.nul ∈ path then .error .nullByte
  else if path = [] then .error .missing
  else if pathLimit < path.utf8.length then .error .nameTooLong
  else components.foldlM disk.follow (if Path.isAbsolute path then [] else workDir)

/-- What a path leads to.  A path that ends in a slash has to lead to a directory. -/
def nodeAt (disk : Disk) (workDir : Path.Place) (path : Text) : Except FaultKind Node := do
  let place <- disk.locate workDir path (Path.components path)
  match disk.node? place with
  | some node => .ok node
  | none => .error .missing

def contains (disk : Disk) (workDir : Path.Place) (path : Text) : Bool :=
  (disk.nodeAt workDir path).isOk

def isDirectory (disk : Disk) (workDir : Path.Place) (path : Text) : Bool :=
  match disk.nodeAt workDir path with
  | .ok .directory => true
  | _ => false

def blame {α : Type} (path : Text) : Except FaultKind α -> Except Fault α :=
  Except.mapError fun kind => ⟨kind, path⟩

def readFile (disk : Disk) (workDir : Path.Place) (path : Text) : Except Fault Bytes :=
  blame path do
    match <- disk.nodeAt workDir path with
    | .directory => .error .isDirectory
    | .file content => .ok content

def writeFile (disk : Disk) (workDir : Path.Place) (path : Text) (content : Bytes) :
    Except Fault Disk :=
  blame path do
    let place <- disk.locate workDir path (Path.namedComponents path)
    match disk.node? place with
    | some .directory => .error .isDirectory
    | _ => .ok (disk.put place (.file content))

def makeDirectory (disk : Disk) (workDir : Path.Place) (path : Text) : Except Fault Disk :=
  blame path do
    let components := (Path.components path).filter fun part => !part.isEmpty
    let place <- disk.locate workDir path components
    match disk.node? place with
    | some _ => .error .alreadyExists
    | none => .ok (disk.put place .directory)

/-!
## Comparing disks
-/

def files (disk : Disk) : List (Path.Place × Bytes) :=
  disk.nodes.filterMap fun (place, node) =>
    match node with
    | .directory => none
    | .file content => some (place, content)

def changedFiles (before after : Disk) : List (Path.Place × Bytes) :=
  after.files.filter fun (place, content) => before.node? place ≠ some (.file content)

/-!
## Filling a disk
-/

def withDirectory (disk : Disk) (place : Path.Place) : Disk :=
  (List.range place.length).foldl
    (fun disk above => disk.put (place.take (above + 1)) .directory) disk

def withFile (disk : Disk) (place : Path.Place) (content : Bytes) : Disk :=
  (disk.withDirectory place.dropLast).put place (.file content)

end Disk
end ProtoModules
