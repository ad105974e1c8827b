import ProtoModules.Path.Basic

/-!
# File name extensions

The extension of a path is what follows the last dot of its name, with the dot.
The dots that a name begins with open no extension, so neither a hidden file nor
a name of dots alone has one.
-/

namespace ProtoModules
namespace Path

def splitExtension (path : Text) : Text × Text :=
  let (folder, name) := cutName path
  let dots := name.takeWhile (· = '.')
  match Text.cutLast '.' (name.dropWhile (· = '.')) with
  | some (stem, ending) => (folder ++ dots ++ stem, '.' :: ending)
  | none => (path, [])

def stem (path : Text) : Text :=
  (splitExtension path).1

def withExtension (path extension : Text) : Text :=
  stem path ++ extension

end Path
end ProtoModules
