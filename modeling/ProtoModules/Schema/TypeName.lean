import ProtoModules.Schema.Basic

/-!
# Type names

The full name of a type starts with a dot, then gives its package, the messages
around it and its own name, with dots between them.  A module declares all its
types side by side, so a nested type needs a flattened identifier there: two
underscores, then its path within the package with underscores for dots.
-/

namespace ProtoModules
namespace TypeName

/--
The full name of a declaration.  A declaration inside a message extends the full
name of that message; another one extends its package, if there is any.
-/
def full (package parent name : Text) : Text :=
  if parent ≠ [] then parent ++ '.' :: name
  else if package ≠ [] then '.' :: package ++ '.' :: name
  else '.' :: name

def absolute : Text -> Text
  | '.' :: rest => '.' :: rest
  | name => '.' :: name

def shown (name : Text) : Text :=
  name.dropWhile (· = '.')

def withoutPackage (package name : Text) : Text :=
  if package ≠ [] ∧ (package ++ ['.']).isPrefixOf name then
    name.drop (package.length + 1)
  else name

def flattened (package name : Text) : Text :=
  '_' :: '_' :: Text.replaceChar '.' '_' (withoutPackage package (shown name))

/--
The identifier by which a module refers to a type of its own file: flattened for
a nested type and the simple name for another one.
-/
def localIdentifier (package name : Text) : Text :=
  let bare := match name with
    | '.' :: rest => rest
    | _ => name
  let home := if package = [] then [] else package ++ ['.']
  if home.isPrefixOf bare ∧ (bare.drop home.length).contains '.' then
    flattened package bare
  else Text.afterLast '.' bare

end TypeName
end ProtoModules
