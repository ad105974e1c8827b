import ProtoModules.Path.Extension

/-!
# Places and relative paths

A place is the list of directories on the way from the root to a file.  Reading
a path from a working directory gives a place: a component that is empty or a
single dot stays, a double dot goes up, and the root has nothing above it.  The
specifier of an import leads from the place of one module to another.
-/

namespace ProtoModules
namespace Path

/-- The names on the way down from the root. -/
abbrev Place := List Text

def step (place : Place) (component : Text) : Place :=
  if component = [] ∨ component = here then place
  else if component = above then place.dropLast
  else place ++ [component]

def place (workDir : Place) (path : Text) : Place :=
  (components path).foldl step (if isAbsolute path then [] else workDir)

def absoluteDirectory (workDir : Place) (path : Text) : Text :=
  let start := if isAbsolute path then root path else ['/']
  start ++ Text.joined "/" (place workDir path).dropLast

def diverge : Place -> Place -> Place × Place
  | a :: as, b :: bs => if a = b then diverge as bs else (a :: as, b :: bs)
  | as, bs => (as, bs)

def route (start target : Place) : List Text :=
  let (up, down) := diverge start target
  up.map (fun _ => above) ++ down

def relative (start target : Place) : Text :=
  match route start target with
  | [] => here
  | parts => Text.joined "/" parts

/--
The specifier under which the module of one file imports the module of another.
It always begins with a dot, and there is none when the imported module has an
empty name.
-/
def specifier? (workDir : Place) (current target extension : Text) : Option Text :=
  let file := withExtension target extension
  if file = [] then none
  else
    let way := relative (place workDir (directory current)) (place workDir file)
    some (if "../".toList.isPrefixOf way then way else "./".toList ++ way)

end Path
end ProtoModules
