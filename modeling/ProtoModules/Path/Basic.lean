import ProtoModules.Text.Basic

/-!
# Slash-separated paths

A path is a text, and its components are the pieces between slashes.  A path
that begins with a slash is absolute; exactly two slashes at the beginning are a
root of their own, and any other number counts as one.
-/

namespace ProtoModules
namespace Path

/-- The character that no path to a file may hold. -/
def nul : Char := '\x00'

def here : Text := ['.']

def above : Text := ['.', '.']

def components (path : Text) : List Text :=
  path.splitOn '/'

def isAbsolute (path : Text) : Bool :=
  path.head? == some '/'

def root : Text -> Text
  | '/' :: '/' :: '/' :: _ => ['/']
  | '/' :: '/' :: _ => ['/', '/']
  | '/' :: _ => ['/']
  | _ => []

def withoutEndSlashes (path : Text) : Text :=
  if path.all (· = '/') then path else Text.dropEndWhile (· = '/') path

/--
A path cut behind its last slash.  The first part holds the slash and the second
part holds none.
-/
def cutName (path : Text) : Text × Text :=
  match Text.cutLast '/' path with
  | some (before, after) => (before ++ ['/'], after)
  | none => ([], path)

def name (path : Text) : Text :=
  (cutName path).2

def directory (path : Text) : Text :=
  withoutEndSlashes (cutName path).1

/-- A path taken from a directory.  An absolute path stays as it is. -/
def join (base path : Text) : Text :=
  if isAbsolute path then path
  else if base = [] ∨ base.getLast? = some '/' then base ++ path
  else base ++ '/' :: path

def namedComponents (path : Text) : List Text :=
  (components path).filter fun part => !part.isEmpty && part != here

/--
A path without repeated slashes, single dots and a slash at its end.  Nothing is
left of an empty path but a single dot.
-/
def tidy (path : Text) : Text :=
  match root path ++ Text.joined "/" (namedComponents path) with
  | [] => here
  | text => text

end Path
end ProtoModules
